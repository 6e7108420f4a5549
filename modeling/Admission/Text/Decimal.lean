/-!
# Decimal numerals

Only the ten ASCII digits count as digits. Numerals are read either by width,
as in a date, or whole and bounded, as in a setting.
-/

namespace Admission.Decimal

/-- Whether a character is one of the ten ASCII digits. -/
def isDigit (symbol : Char) : Bool :=
  '0' ≤ symbol && symbol ≤ '9'

/-- The value of an ASCII digit. -/
def digitValue (symbol : Char) : Nat :=
  symbol.toNat - 48

/-- The number that a row of digits spells. -/
def value (digits : List Char) : Nat :=
  digits.foldl (fun total symbol => total * 10 + digitValue symbol) 0

/-- A numeral of exactly `count` digits at the front, with the rest. -/
def fixed? (count : Nat) (symbols : List Char) : Option (Nat × List Char) :=
  let digits := symbols.take count
  if digits.length = count ∧ digits.all isDigit then
    some (value digits, symbols.drop count)
  else none

/-- The longest numeral at the front of at least `least` digits, with the rest. -/
def atLeast? (least : Nat) (symbols : List Char) : Option (List Char × List Char) :=
  let digits := symbols.takeWhile isDigit
  if least ≤ digits.length then some (digits, symbols.dropWhile isDigit) else none

/-- The digits of a number, filled with zeros on the left up to `width`. -/
def padded (width number : Nat) : List Char :=
  let digits := Nat.toDigits 10 number
  List.replicate (width - digits.length) '0' ++ digits

/-- Why a text is not a numeral within bounds. -/
inductive Fault where
  | empty
  | invalidDigit
  | tooLarge
deriving DecidableEq, Repr

/-- The wording of a fault. -/
def Fault.message : Fault → String
  | .empty => "cannot parse integer from empty string"
  | .invalidDigit => "invalid digit found in string"
  | .tooLarge => "number too large to fit in target type"

/-- Accumulate digits from the left; the first digit that is none, or that takes
the number above the bound, decides the fault. -/
def accumulate (bound total : Nat) : List Char → Except Fault Nat
  | [] => .ok total
  | symbol :: rest =>
      if isDigit symbol then
        let next := total * 10 + digitValue symbol
        if next ≤ bound then accumulate bound next rest else .error .tooLarge
      else .error .invalidDigit

/-- A whole text as a natural number up to `bound`, with an optional plus sign. -/
def natural (bound : Nat) (text : String) : Except Fault Nat :=
  match text.toList with
  | [] => .error .empty
  | ['+'] => .error .invalidDigit
  | '+' :: digits => accumulate bound 0 digits
  | digits => accumulate bound 0 digits

/-- A whole text as an integer of 64 bits with an optional sign. -/
def integer64? (text : String) : Option Int :=
  match text.toList with
  | [] => none
  | [single] => if isDigit single then some (digitValue single) else none
  | '+' :: digits => (accumulate (Nat.pow 2 63 - 1) 0 digits).toOption.map Int.ofNat
  | '-' :: digits => (accumulate (Nat.pow 2 63) 0 digits).toOption.map fun size => -Int.ofNat size
  | digits => (accumulate (Nat.pow 2 63 - 1) 0 digits).toOption.map Int.ofNat

end Admission.Decimal
