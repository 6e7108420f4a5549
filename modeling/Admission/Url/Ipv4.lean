import Admission.Bytes.Hex
import Admission.Text.Decimal
import Admission.Text.Split
import Admission.Url.Host

/-!
# IPv4 addresses in host names

A name whose last part is a number is an address. It has one to four parts, each
in decimal, in octal after a zero, or in hexadecimal after `0x`; the last part
fills all places that are left.
-/

namespace Admission.Url.Ipv4

/-- The number of digits in a base, when all of them are digits. -/
def inBase? (base : Nat) (digits : List Char) : Option Nat :=
  digits.foldl
    (fun total symbol => do
      let total ← total
      let digit ← Hex.digitValue? symbol
      if digit < base then some (total * base + digit) else none)
    (some 0)

/-- The number that a part spells. -/
def part? : List Char → Option Nat
  | [] => none
  | '0' :: 'x' :: digits => inBase? 16 digits
  | '0' :: 'X' :: digits => inBase? 16 digits
  | '0' :: symbol :: digits => inBase? 8 (symbol :: digits)
  | digits => inBase? 10 digits

/-- The parts of a name, without an empty last one. -/
def parts (name : List Char) : List (List Char) :=
  let all := Text.split '.' name
  if all.getLast? = some [] then all.dropLast else all

/-- Whether the last part of a name is a number. -/
def endsInNumber (name : List Char) : Bool :=
  match (parts name).getLast? with
  | none => false
  | some last => (!last.isEmpty && last.all Decimal.isDigit) || (part? last).isSome

/-- The address that numbers make: one place for each but the last. -/
def assemble? (numbers : List Nat) : Option Nat :=
  match numbers.reverse with
  | [] => none
  | last :: others =>
      let places := 4 - others.length
      if others.length ≤ 3 ∧ others.all (· ≤ 255) ∧ last < Nat.pow 256 places then
        some <|
          others.reverse.foldl (fun total number => total * 256 + number) 0 * Nat.pow 256 places +
            last
      else none

/-- The address that a name spells. -/
def ofName? (name : List Char) : Option Nat := do
  let numbers ← (parts name).mapM part?
  assemble? numbers

end Admission.Url.Ipv4
