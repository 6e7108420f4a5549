/-!
# Binary floating-point numbers

Finite numbers of the 64-bit binary format as exact pairs of a mantissa and a
power of two. Every operation is the exact result rounded to the nearest
number, a tie going to the even mantissa.
-/

namespace Admission

/-- A finite number: its sign and `mantissa · 2 ^ exponent`. A nonzero mantissa
has 53 bits unless the exponent is the least one, -1074. -/
structure Binary64 where
  negative : Bool
  mantissa : Nat
  exponent : Int
deriving DecidableEq, Repr

namespace Binary64

/-- Zero with a sign. -/
def zero (negative : Bool) : Binary64 := ⟨negative, 0, -1074⟩

/-- Whether the number is zero of either sign. -/
def isZero (number : Binary64) : Bool := number.mantissa = 0

/-- The natural number nearest to a quotient, a tie going to the even one. -/
def roundQuotient (numerator denominator : Nat) : Nat :=
  let quotient := numerator / denominator
  let twice := 2 * (numerator % denominator)
  if twice < denominator ∨ (twice = denominator ∧ quotient % 2 = 0) then quotient
  else quotient + 1

/-- A quotient divided by a power of two, as a quotient again. -/
def scaleDown (numerator denominator : Nat) (exponent : Int) : Nat × Nat :=
  if 0 ≤ exponent then (numerator, denominator * Nat.pow 2 exponent.toNat)
  else (numerator * Nat.pow 2 (-exponent).toNat, denominator)

/-- The number nearest to a quotient, unless it lies beyond the largest one. -/
def nearest? (negative : Bool) (numerator denominator : Nat) : Option Binary64 :=
  if numerator = 0 then some (zero negative)
  else
    let estimate : Int := (Nat.log2 numerator : Int) - Nat.log2 denominator - 53
    let tooWide (exponent : Int) : Bool :=
      let (top, bottom) := scaleDown numerator denominator exponent
      Nat.pow 2 53 * bottom ≤ top
    let first := max estimate (-1074)
    let exponent := if tooWide first then first + 1 else first
    let (top, bottom) := scaleDown numerator denominator exponent
    let mantissa := roundQuotient top bottom
    let (mantissa, exponent) :=
      if mantissa = Nat.pow 2 53 then (Nat.pow 2 52, exponent + 1) else (mantissa, exponent)
    if 971 < exponent then none else some ⟨negative, mantissa, exponent⟩

/-- The magnitude as a quotient of natural numbers. -/
def quotient (number : Binary64) : Nat × Nat :=
  if 0 ≤ number.exponent then (number.mantissa * Nat.pow 2 number.exponent.toNat, 1)
  else (number.mantissa, Nat.pow 2 (-number.exponent).toNat)

/-- The number nearest to a natural number. -/
def ofNat? (negative : Bool) (value : Nat) : Option Binary64 :=
  nearest? negative value 1

/-- The product with the number nearest to a power of ten. -/
def timesPowerOfTen? (number : Binary64) (power : Nat) : Option Binary64 := do
  let factor ← ofNat? false (Nat.pow 10 power)
  let (top, bottom) := number.quotient
  let (factorTop, factorBottom) := factor.quotient
  nearest? number.negative (top * factorTop) (bottom * factorBottom)

/-- The quotient by the number nearest to a power of ten. -/
def overPowerOfTen? (number : Binary64) (power : Nat) : Option Binary64 := do
  let divisor ← ofNat? false (Nat.pow 10 power)
  let (top, bottom) := number.quotient
  let (divisorTop, divisorBottom) := divisor.quotient
  nearest? number.negative (top * divisorBottom) (bottom * divisorTop)

/-- The most decimal places that one rounded step moves. -/
def stepPlaces : Nat := 308

/-- Move down by full steps and then by the places left over, stopping at zero. -/
def down (number : Binary64) (left : Nat) : Nat → Option Binary64
  | 0 => if number.isZero then some number else number.overPowerOfTen? left
  | steps + 1 =>
      if number.isZero then some number
      else
        match number.overPowerOfTen? stepPlaces with
        | some smaller => down smaller left steps
        | none => none

/-- A 64-bit number scaled by a power of ten in rounded steps of at most 308
places. Scaling a nonzero number up by more than one step is out of range. -/
def scale? (negative : Bool) (significand : Nat) (exponent : Int) : Option Binary64 := do
  let start ← ofNat? negative significand
  if 0 ≤ exponent then
    if exponent ≤ stepPlaces then start.timesPowerOfTen? exponent.toNat
    else if start.isZero then some start
    else none
  else
    let places := (-exponent).toNat
    let steps := (places - 1) / stepPlaces
    down start (places - steps * stepPlaces) steps

/-- The nearest whole number, a half going away from zero. -/
def rounded (number : Binary64) : Int :=
  let (top, bottom) := number.quotient
  let size : Int := (2 * top + bottom) / (2 * bottom)
  if number.negative then -size else size

end Binary64
end Admission
