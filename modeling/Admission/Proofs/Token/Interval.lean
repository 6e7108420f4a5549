import Mathlib.Algebra.Order.Field.Rat
import Mathlib.Tactic.Linarith
import Mathlib.Tactic.Positivity
import Admission.Proofs.Token.Verification

/-!
# Times that tokens are accepted for

The time of expiry is a number, which is rounded to whole seconds before it is compared. The
time from which a token counts is never compared: claims that are accepted are accepted with
any other number in its place.
-/

namespace Admission

/-- The number that mantissa and exponent stand for. -/
def Binary64.exact (number : Binary64) : ℚ :=
  (if number.negative then -1 else 1) * (number.quotient.1 / number.quotient.2)

/-- The number that is written. -/
def Json.Number.exact : Json.Number → ℚ
  | .integer value => value
  | .real value => value.exact

namespace Binary64

theorem quotient_denominator_pos (number : Binary64) : 0 < number.quotient.2 := by
  unfold quotient
  split
  · exact Nat.one_pos
  · exact Nat.two_pow_pos _

/-- The nearest whole number is half a unit away from a quotient at most. -/
theorem nearest_quotient_bounds (top : Nat) {bottom : Nat} (positive : 0 < bottom) :
    ((2 * top + bottom : Int) / (2 * bottom) : Int) ≤ (top / bottom : ℚ) + 1 / 2 ∧
      (top / bottom : ℚ) - 1 / 2 ≤ ((2 * top + bottom : Int) / (2 * bottom) : Int) := by
  have bottomPos : (0 : ℚ) < bottom := by exact_mod_cast positive
  have divisorPos : (0 : Int) < 2 * bottom := by omega
  generalize whole : (2 * top + bottom : Int) / (2 * bottom) = size
  have below : size * (2 * bottom) ≤ 2 * top + bottom := by
    rw [← whole]
    exact Int.ediv_mul_le _ divisorPos.ne'
  have above : (2 * top + bottom : Int) < (size + 1) * (2 * bottom) := by
    rw [← whole]
    exact Int.lt_ediv_add_one_mul_self _ divisorPos
  have belowExact : (size : ℚ) * (2 * bottom) ≤ 2 * top + bottom := by exact_mod_cast below
  have aboveExact : (2 * top + bottom : ℚ) < (size + 1) * (2 * bottom) := by exact_mod_cast above
  have magnitude : (top : ℚ) = top / bottom * bottom := (div_mul_cancel₀ _ bottomPos.ne').symm
  constructor
  · by_contra beyond
    nlinarith
  · by_contra beyond
    nlinarith

/-- Rounding moves a number up by half a unit at most. -/
theorem rounded_le (number : Binary64) : (number.rounded : ℚ) ≤ number.exact + 1 / 2 := by
  obtain ⟨above, below⟩ :=
    nearest_quotient_bounds number.quotient.1 number.quotient_denominator_pos
  by_cases negative : number.negative = true
  · simp only [rounded, exact, negative, if_true, Int.cast_neg]
    linarith
  · simp only [rounded, exact, negative, Bool.false_eq_true, if_false]
    linarith

theorem exact_nonneg {number : Binary64} (unsigned : ¬ number.negative ∨ number.isZero) :
    0 ≤ number.exact := by
  rcases unsigned with unsigned | zero
  · rw [exact, if_neg unsigned, one_mul]
    positivity
  · have none : number.quotient.1 = 0 := by
      simp only [isZero, decide_eq_true_eq] at zero
      unfold quotient
      split <;> simp [zero]
    simp [exact, none]

end Binary64

namespace Token

variable {expectation : Expectation} {time : Nat} {claims : Claims} {start : Json.Number}
  {name : String}

namespace Claims

/-- Claims whose time of expiry is no earlier than some second: half a second before it at
most, and not before it at all where it is a whole number. -/
def LastsUntil (earliest : Nat) (claims : Claims) : Prop :=
  ∃ number, Json.lookup? claims "exp" = some (.number number) ∧
    (earliest : ℚ) ≤ number.exact + 1 / 2 ∧ ∀ whole, number = .integer whole → earliest ≤ whole

/-- The same claims, counting from some time on. -/
def startingAt (claims : Claims) (start : Json.Number) : Claims :=
  claims.filter (fun member => member.1 ≠ "nbf") ++ [("nbf", .number start)]

/-- Seconds that are read from a number are at most half a second after it, and just what is
written where it is a whole number. -/
theorem seconds?_eq_some {value : Json} {seconds : Nat} (read : seconds? value = some seconds) :
    ∃ number, value = .number number ∧ (seconds : ℚ) ≤ number.exact + 1 / 2 ∧
      ∀ whole, number = .integer whole → seconds = whole := by
  unfold seconds? at read
  split at read
  · rename_i whole
    split at read
    · rename_i nonneg
      cases read
      have same : ((whole.toNat : Int) : ℚ) = whole := by rw [Int.toNat_of_nonneg nonneg]
      refine ⟨_, rfl, ?_, ?_⟩
      · rw [Json.Number.exact, ← same, Int.cast_natCast]
        linarith
      · rintro _ ⟨⟩
        exact Int.toNat_of_nonneg nonneg
    · cases read
  · rename_i number
    split at read
    · rename_i bounded
      cases read
      refine ⟨_, rfl, ?_, fun whole impossible => nomatch impossible⟩
      have least : ((min number.rounded.toNat (Nat.pow 2 64 - 1) : Nat) : ℚ) ≤
          number.rounded.toNat := Nat.cast_le.mpr (Nat.min_le_left _ _)
      refine least.trans ?_
      rcases Int.le_total 0 number.rounded with nonneg | negative
      · have same : ((number.rounded.toNat : Int) : ℚ) = number.rounded := by
          rw [Int.toNat_of_nonneg nonneg]
        rw [Int.cast_natCast] at same
        rw [same]
        exact number.rounded_le
      · rw [Int.toNat_of_nonpos negative, Nat.cast_zero]
        exact (Binary64.exact_nonneg (by simpa using bounded.1)).trans (by simp [Json.Number.exact])
    · cases read
  · cases read

theorem lookup?_startingAt (other : name ≠ "nbf") :
    Json.lookup? (claims.startingAt start) name = Json.lookup? claims name := by
  have last : Json.lookup? [("nbf", .number start)] name = none := by
    simp [Json.lookup?, other.symm]
  rw [startingAt, Json.lookup?_append, last, Option.none_or, Json.lookup?_filter_ne other]

theorem lookup?_startingAt_nbf :
    Json.lookup? (claims.startingAt start) "nbf" = some (.number start) := by
  rw [startingAt, Json.lookup?_append]
  rfl

theorem text?_startingAt (other : name ≠ "nbf") :
    text? (claims.startingAt start) name = text? claims name := by
  rw [text?, text?, lookup?_startingAt other]

theorem expiry?_startingAt : expiry? (claims.startingAt start) = expiry? claims := by
  rw [expiry?, expiry?, lookup?_startingAt (by decide)]

/-- No name is repeated that was not repeated before. -/
theorem occurrences_startingAt (once : Json.occurrences claims name ≤ 1) :
    Json.occurrences (claims.startingAt start) name ≤ 1 := by
  unfold Json.occurrences at *
  rw [startingAt, List.filter_append, List.length_append]
  by_cases started : name = "nbf"
  · have none : (claims.filter fun member => member.1 ≠ "nbf").filter (·.1 == name) = [] := by
      simp [started]
    rw [none, List.length_nil, Nat.zero_add]
    exact List.length_filter_le _ _
  · have fewer : ((claims.filter fun member => member.1 ≠ "nbf").filter (·.1 == name)).length ≤
        (claims.filter (·.1 == name)).length :=
      ((List.filter_sublist (l := claims)).filter _).length_le
    have last : [("nbf", Json.number start)].filter (·.1 == name) = [] := by
      simp [Ne.symm started]
    rw [last]
    exact fewer.trans once

theorem readable_startingAt (read : readable claims = true) :
    readable (claims.startingAt start) = true := by
  simp only [readable, Bool.and_eq_true, Json.once, List.all_eq_true, decide_eq_true_eq] at *
  obtain ⟨⟨⟨once, subject⟩, expiry⟩, _⟩ := read
  refine ⟨⟨⟨fun name among => occurrences_startingAt (once name among), ?_⟩, ?_⟩, ?_⟩
  · rwa [lookup?_startingAt (by decide)]
  · rwa [lookup?_startingAt (by decide)]
  · rw [lookup?_startingAt_nbf]
    rfl

/-- Claims that meet an expectation do so with any time from which they count. -/
theorem Meets.startingAt (meets : claims.Meets expectation time) :
    (claims.startingAt start).Meets expectation time where
  readable := readable_startingAt meets.readable
  current := by
    rw [expiry?_startingAt]
    exact meets.current
  issuer := by
    rw [lookup?_startingAt (by decide)]
    exact meets.issuer
  audience := by
    rw [lookup?_startingAt (by decide)]
    exact meets.audience

theorem Meets.lastsUntil (meets : claims.Meets expectation time)
    (lenient : expectation.leeway.wholeSeconds ≤ time) :
    claims.LastsUntil (time - expectation.leeway.wholeSeconds) := by
  obtain ⟨expiry, expires, current⟩ := meets.current
  rw [earliestExpiry, if_pos lenient] at current
  simp only [expiry?, Option.bind_eq_bind, Option.bind_eq_some_iff] at expires
  obtain ⟨value, found, read⟩ := expires
  obtain ⟨number, rfl, near, whole⟩ := seconds?_eq_some read
  have first : ((time - expectation.leeway.wholeSeconds : Nat) : ℚ) ≤ expiry := by
    exact_mod_cast current
  refine ⟨number, found, first.trans near, ?_⟩
  intro seconds written
  rw [← whole seconds written]
  exact_mod_cast current

end Claims
end Token
end Admission
