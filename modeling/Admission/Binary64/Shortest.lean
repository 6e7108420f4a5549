import Admission.Binary64
import Admission.Text.Decimal

/-!
# Shortest decimal forms

A number is written with the fewest digits that still read back as it, and among
those with the digits nearest to it. Numbers from 10⁻⁵ up to 10¹⁶ are written
positionally, all others with an exponent.
-/

namespace Admission.Binary64

/-- The exponent of the leading decimal digit of a positive quotient. -/
def leadingExponent (top bottom : Nat) : Int :=
  if bottom ≤ top then ((Nat.toDigits 10 (top / bottom)).length : Int) - 1
  else
    match (List.range 400).find? fun places => bottom ≤ top * Nat.pow 10 places with
    | some places => -(places : Int)
    | none => 0

/-- The numbers of a decimal grid that read back as `number`, nearest first:
multiples of ten to the power `place` next to it. -/
def readBackAt (number : Binary64) (place : Int) : List Nat :=
  let (top, bottom) := number.quotient
  let gapBelow := if number.mantissa = Nat.pow 2 52 ∧ -1074 < number.exponent then 1 else 2
  let unit := if 0 ≤ number.exponent then Nat.pow 2 number.exponent.toNat else 1
  let (up, down) :=
    if 0 ≤ place then (1, Nat.pow 10 place.toNat) else (Nat.pow 10 (-place).toNat, 1)
  let middle := 4 * top * up
  let low := (4 * top - gapBelow * unit) * up
  let high := (4 * top + 2 * unit) * up
  let step := 4 * bottom * down
  let floor := middle / step
  let fits (candidate : Nat) : Bool :=
    if number.mantissa % 2 = 0 then low ≤ candidate * step && candidate * step ≤ high
    else low < candidate * step && candidate * step < high
  let rest := middle % step
  let ordered :=
    if 2 * rest < step ∨ (2 * rest = step ∧ floor % 2 = 0) then [floor, floor + 1]
    else [floor + 1, floor]
  ordered.filter fits

/-- The fewest digits and their decimal place for a positive number. A number just
below a power of ten may be nearest to it; its single zero is then dropped. -/
def shortest (number : Binary64) : Nat × Int :=
  let (top, bottom) := number.quotient
  let leading := leadingExponent top bottom
  let found := (List.range 17).findSome? fun (more : Nat) =>
    let place := leading - more
    ((number.readBackAt place).filter (0 < ·)).head?.map fun digits => (digits, place)
  let (digits, place) := found.getD (top / bottom, 0)
  if digits % 10 = 0 then (digits / 10, place + 1) else (digits, place)

/-- The written form of a number; a whole number keeps one zero after the point. -/
def text (number : Binary64) : String :=
  let sign := if number.negative then "-" else ""
  if number.isZero then sign ++ "0.0"
  else
    let (value, place) := number.shortest
    let digits := Nat.toDigits 10 value
    let point := (digits.length : Int) + place
    let body : List Char :=
      if 0 ≤ place ∧ point ≤ 16 then digits ++ List.replicate place.toNat '0' ++ ['.', '0']
      else if 0 < point ∧ point ≤ 16 then
        digits.take point.toNat ++ '.' :: digits.drop point.toNat
      else if -5 < point ∧ point ≤ 0 then
        '0' :: '.' :: List.replicate (-point).toNat '0' ++ digits
      else
        let power := (toString (point - 1)).toList
        match digits with
        | [single] => single :: 'e' :: power
        | first :: rest => first :: '.' :: rest ++ 'e' :: power
        | [] => []
    sign ++ String.ofList body

end Admission.Binary64
