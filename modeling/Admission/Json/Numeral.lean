import Admission.Json
import Admission.Text.Decimal

/-!
# JSON numerals

A numeral is read one character at a time. Whole numbers that fit 64 bits stay
exact. All others become binary floating-point numbers: digits are collected
into 64 bits, digits that no longer fit only count as places, and the result is
scaled by its power of ten.
-/

namespace Admission.Json

/-- How far a numeral has been read. -/
inductive Numeral.Phase where
  | sign
  | zero
  | whole
  | point
  | fraction
  | mark
  | markSign
  | exponent
deriving DecidableEq, Repr

/-- The parts of a numeral, its digits last first. -/
structure Numeral where
  phase : Numeral.Phase
  negative : Bool
  whole : List Char
  fraction : List Char
  exponentNegative : Bool
  exponent : List Char
  isReal : Bool
deriving Repr

namespace Numeral

/-- A numeral before its first digit. -/
def start (negative : Bool) : Numeral :=
  ⟨.sign, negative, [], [], false, [], false⟩

/-- Continue a numeral by a character, when the character belongs to it. -/
def push? (numeral : Numeral) (symbol : Char) : Option Numeral :=
  let digit := Decimal.isDigit symbol
  let isMark := symbol = 'e' ∨ symbol = 'E'
  match numeral.phase with
  | .sign =>
      if symbol = '0' then some { numeral with phase := .zero, whole := ['0'] }
      else if digit then some { numeral with phase := .whole, whole := [symbol] }
      else none
  | .zero =>
      if symbol = '.' then some { numeral with phase := .point, isReal := true }
      else if isMark then some { numeral with phase := .mark, isReal := true }
      else none
  | .whole =>
      if digit then some { numeral with whole := symbol :: numeral.whole }
      else if symbol = '.' then some { numeral with phase := .point, isReal := true }
      else if isMark then some { numeral with phase := .mark, isReal := true }
      else none
  | .point =>
      if digit then some { numeral with phase := .fraction, fraction := [symbol] } else none
  | .fraction =>
      if digit then some { numeral with fraction := symbol :: numeral.fraction }
      else if isMark then some { numeral with phase := .mark }
      else none
  | .mark =>
      if symbol = '+' then some { numeral with phase := .markSign }
      else if symbol = '-' then
        some { numeral with phase := .markSign, exponentNegative := true }
      else if digit then some { numeral with phase := .exponent, exponent := [symbol] }
      else none
  | .markSign =>
      if digit then some { numeral with phase := .exponent, exponent := [symbol] } else none
  | .exponent =>
      if digit then some { numeral with exponent := symbol :: numeral.exponent } else none

/-- Collect digits into a number of 64 bits; the count tells the digits from the
first that no longer fits on. -/
def collect (significand : Nat) : List Char → Nat × Nat
  | [] => (significand, 0)
  | symbol :: rest =>
      let next := significand * 10 + Decimal.digitValue symbol
      if next < Nat.pow 2 64 then collect next rest else (significand, rest.length + 1)

/-- The floating-point number of the parts, unless it is out of range. -/
def real? (numeral : Numeral) : Option Binary64 :=
  let (whole, dropped) := collect 0 numeral.whole.reverse
  let fraction := numeral.fraction.reverse
  let (significand, unread) := collect whole fraction
  let places : Int := dropped - (fraction.length - unread : Nat)
  let shift := Decimal.value numeral.exponent.reverse
  if Nat.pow 2 31 ≤ shift then
    if significand = 0 ∨ numeral.exponentNegative then some (.zero numeral.negative) else none
  else
    Binary64.scale? numeral.negative significand
      (if numeral.exponentNegative then places - shift else places + shift)

/-- The number a complete numeral denotes. -/
def number? (numeral : Numeral) : Option Number :=
  match numeral.phase with
  | .zero | .whole | .fraction | .exponent =>
      let whole := Decimal.value numeral.whole.reverse
      if numeral.isReal then numeral.real?.map .real
      else if numeral.negative then
        if whole = 0 then some (.real (.zero true))
        else if whole ≤ Nat.pow 2 63 then some (.integer (-whole))
        else numeral.real?.map .real
      else if whole < Nat.pow 2 64 then some (.integer whole)
      else numeral.real?.map .real
  | _ => none

end Numeral
end Admission.Json
