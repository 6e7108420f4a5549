import Mathlib.Order.Defs.LinearOrder
import Admission.Time.Instant

/-!
# Order and position of instants

Instants are linearly ordered. The position of an instant is its count of
nanoseconds since the start of the Unix count. Outside leap seconds, order,
differences and sums of instants are those of positions; a leap second shifts
each of them by one second at most.
-/

namespace Admission

namespace Span

theorem le_def {left right : Span} : left ≤ right ↔ left.nanoseconds ≤ right.nanoseconds :=
  Iff.rfl

theorem lt_def {left right : Span} : left < right ↔ left.nanoseconds < right.nanoseconds :=
  Iff.rfl

/-- Cutting at the longest span never lengthens a span. -/
theorem shorter_nanoseconds (left right : Span) :
    (shorter left right).nanoseconds = min left.nanoseconds right.nanoseconds := by
  unfold shorter
  split <;> rename_i order <;> rw [le_def] at order <;> omega

end Span

namespace Duration

/-- The span of a duration is as long as the duration, or the longest span. -/
theorem span_nanoseconds (duration : Duration) :
    duration.span.nanoseconds = min (duration.nanoseconds : Int) Span.longest.nanoseconds :=
  Span.shorter_nanoseconds _ _

/-- The whole milliseconds of a span are those of its duration, cut at the longest span. -/
theorem wholeMillis_span (duration : Duration) :
    duration.span.wholeMillis = min (duration.wholeMillis : Int) 9223372036854775807 := by
  have length := duration.span_nanoseconds
  simp only [Span.longest] at length
  rw [Span.wholeMillis, Int.tdiv_eq_ediv_of_nonneg (by omega), Duration.wholeMillis]
  omega

/-- Two durations have a sum exactly when it stays below the limit. -/
theorem add?_eq_some_iff {left right sum : Duration} :
    left.add? right = some sum ↔
      left.nanoseconds + right.nanoseconds < limit ∧
        sum.nanoseconds = left.nanoseconds + right.nanoseconds := by
  obtain ⟨total⟩ := sum
  unfold add?
  by_cases below : left.nanoseconds + right.nanoseconds < limit
  · simp [below, eq_comm]
  · simp [below]

end Duration

namespace Instant

variable {instant left right later : Instant} {span : Span}

theorem lt_def : left < right ↔
    left.second < right.second ∨ left.second = right.second ∧ left.nano < right.nano :=
  Iff.rfl

theorem le_def : left ≤ right ↔
    left.second < right.second ∨ left.second = right.second ∧ left.nano ≤ right.nano := by
  change ¬ right < left ↔ _
  rw [lt_def]
  omega

instance : LinearOrder Instant where
  le := (· ≤ ·)
  lt := (· < ·)
  le_refl instant := by rw [le_def]; omega
  le_trans first second third := by simp only [le_def]; omega
  lt_iff_le_not_ge left right := by simp only [le_def, lt_def]; omega
  le_antisymm left right below above := by
    rw [le_def] at below above
    exact Instant.ext (by omega) (by omega)
  le_total left right := by simp only [le_def]; omega
  toDecidableLE := inferInstance
  toDecidableEq := inferInstance
  toDecidableLT := inferInstance

/-- The earlier of two instants is one of them. -/
theorem earlier_cases (left right : Instant) :
    left.earlier right = left ∧ left ≤ right ∨ left.earlier right = right ∧ right < left := by
  unfold earlier
  split
  · exact .inr ⟨rfl, ‹_›⟩
  · exact .inl ⟨rfl, le_of_not_gt ‹_›⟩

/-- Nanoseconds since the start of the Unix count. -/
def position (instant : Instant) : Int := instant.second * nanosPerSecond + instant.nano

theorem isLeap_eq_false_iff : instant.isLeap = false ↔ instant.nano < nanosPerSecond := by
  simp [isLeap]

theorem isLeap_eq_true_iff : instant.isLeap = true ↔ nanosPerSecond ≤ instant.nano := by
  simp [isLeap]

/-- No instant has more than two seconds of nanoseconds. -/
theorem nano_lt (instant : Instant) : instant.nano < 2 * nanosPerSecond := by
  have fraction := instant.valid.2
  simp only [nanosPerSecond] at fraction ⊢
  omega

/-- Outside leap seconds an instant that is not later has no later position. -/
theorem position_le_of_le (regular : left.isLeap = false) (order : left ≤ right) :
    left.position ≤ right.position := by
  rw [isLeap_eq_false_iff] at regular
  rw [le_def] at order
  simp only [position, nanosPerSecond] at *
  omega

/-- Outside leap seconds the order of positions decides. -/
theorem lt_iff_position_lt (regularLeft : left.isLeap = false)
    (regularRight : right.isLeap = false) :
    left < right ↔ left.position < right.position := by
  rw [isLeap_eq_false_iff] at regularLeft regularRight
  rw [lt_def]
  simp only [position, nanosPerSecond] at *
  omega

/-- An instant outside leap seconds has come once its second has. -/
theorem le_iff_position_le_of_regular (regular : left.isLeap = false) :
    left ≤ right ↔
      left.position ≤ right.position ∧ left.position < (right.second + 1) * nanosPerSecond := by
  rw [isLeap_eq_false_iff] at regular
  rw [le_def]
  simp only [position, nanosPerSecond] at *
  omega

/-- A difference is that of the positions, and a second more or less where a leap second lies
between the two times of day. -/
theorem since_nanoseconds_eq (left right : Instant) : (left.since right).nanoseconds =
    left.position - right.position +
      (if right.secondOfDay < left.secondOfDay ∧ right.isLeap then 1
        else if left.secondOfDay < right.secondOfDay ∧ left.isLeap then -1
        else 0) * nanosPerSecond := by
  simp only [since, position, Int.add_mul, Int.sub_mul]
  omega

/-- Outside leap seconds a difference is that of the positions. -/
theorem since_nanoseconds (regularLeft : left.isLeap = false)
    (regularRight : right.isLeap = false) :
    (left.since right).nanoseconds = left.position - right.position := by
  rw [since_nanoseconds_eq, regularLeft, regularRight]
  simp

/-- A difference is at most a second away from that of the positions. -/
theorem since_nanoseconds_near (left right : Instant) :
    left.position - right.position - nanosPerSecond ≤ (left.since right).nanoseconds ∧
      (left.since right).nanoseconds ≤ left.position - right.position + nanosPerSecond := by
  rw [since_nanoseconds_eq]
  simp only [nanosPerSecond]
  split
  · omega
  · split <;> omega

/-- Every position of a representable second is that of an instant outside leap
seconds. -/
theorem exists_position {target : Int} (lower : firstSecond * nanosPerSecond ≤ target)
    (upper : target < (lastSecond + 1) * nanosPerSecond) :
    ∃ instant : Instant, instant.isLeap = false ∧ instant.position = target := by
  simp only [firstSecond, lastSecond, nanosPerSecond] at lower upper
  have valid : Valid (target / nanosPerSecond) (target % nanosPerSecond).toNat := by
    simp only [Valid, firstSecond, lastSecond, nanosPerSecond]
    omega
  refine ⟨⟨_, _, valid⟩, ?_, ?_⟩
  · rw [isLeap_eq_false_iff]
    simp only [nanosPerSecond]
    omega
  · simp only [position, nanosPerSecond]
    omega

/-- The positions of instants span the representable seconds and a leap second. -/
theorem position_bounds (instant : Instant) :
    firstSecond * nanosPerSecond ≤ instant.position ∧
      instant.position < (lastSecond + 2) * nanosPerSecond := by
  have seconds := instant.valid.1
  have nanos := instant.nano_lt
  simp only [position, firstSecond, lastSecond, nanosPerSecond] at *
  omega

theorem of?_eq_some_iff {second : Int} {nano : Nat} :
    of? second nano = some instant ↔ instant.second = second ∧ instant.nano = nano := by
  unfold of?
  split
  · rename_i valid
    rw [Option.some.injEq]
    constructor
    · rintro rfl
      exact ⟨rfl, rfl⟩
    · rintro ⟨rfl, rfl⟩
      rfl
  · rename_i invalid
    simp only [reduceCtorEq, false_iff]
    rintro ⟨rfl, rfl⟩
    exact invalid instant.valid

theorem of?_eq_none_iff {second : Int} {nano : Nat} :
    of? second nano = none ↔ ¬ Valid second nano := by
  rw [of?, dite_eq_right_iff]
  simp only [reduceCtorEq, imp_false]

/-- The position that a move forward leaves from: a leap second repeats the
second before it. -/
def departure (instant : Instant) : Int :=
  instant.second * nanosPerSecond + (instant.nano % nanosPerSecond : Nat)

theorem departure_eq_position (regular : instant.isLeap = false) :
    instant.departure = instant.position := by
  rw [isLeap_eq_false_iff] at regular
  rw [departure, position, Nat.mod_eq_of_lt regular]

/-- The departure is the position or a second before it. -/
theorem departure_near (instant : Instant) :
    instant.position - nanosPerSecond ≤ instant.departure ∧
      instant.departure ≤ instant.position := by
  have nanos := instant.nano_lt
  simp only [position, departure, nanosPerSecond] at *
  omega

/-- Nanoseconds from less than a second before to two seconds after are carried over into
the seconds. -/
theorem carry_eq_some_iff {second nano : Int} (lower : -(nanosPerSecond : Int) ≤ nano)
    (upper : nano < 2 * (nanosPerSecond : Int)) :
    (if nano < 0 then of? (second - 1) (nano + nanosPerSecond).toNat
      else if (nanosPerSecond : Int) ≤ nano then of? (second + 1) (nano - nanosPerSecond).toNat
      else of? second nano.toNat) = some later ↔
      later.isLeap = false ∧ later.position = second * nanosPerSecond + nano := by
  rw [isLeap_eq_false_iff, position]
  by_cases borrowed : nano < 0
  · rw [if_pos borrowed, of?_eq_some_iff]
    simp only [nanosPerSecond] at *
    omega
  · rw [if_neg borrowed]
    by_cases carried : (nanosPerSecond : Int) ≤ nano
    · rw [if_pos carried, of?_eq_some_iff]
      simp only [nanosPerSecond] at *
      omega
    · rw [if_neg carried, of?_eq_some_iff]
      simp only [nanosPerSecond] at *
      omega

/-- A move forward by a second or more ends outside leap seconds, as many
positions after its departure as the span is long. -/
theorem add?_eq_some_iff (long : nanosPerSecond ≤ span.nanoseconds) :
    instant.add? span = some later ↔
      later.isLeap = false ∧ later.position = instant.departure + span.nanoseconds := by
  have nanos := instant.nano_lt
  have wholeSeconds : span.wholeSeconds = span.nanoseconds / nanosPerSecond :=
    Int.tdiv_eq_ediv_of_nonneg (by simp only [nanosPerSecond] at long; omega)
  have restNanos : span.restNanos = span.nanoseconds % nanosPerSecond :=
    Int.tmod_eq_emod_of_nonneg (by simp only [nanosPerSecond] at long; omega)
  have forward : 0 < span.wholeSeconds := by
    simp only [wholeSeconds, nanosPerSecond] at long ⊢
    omega
  have arrival (fraction : Int) :
      (instant.second + span.wholeSeconds) * nanosPerSecond + (fraction + span.restNanos) =
        instant.second * nanosPerSecond + fraction + span.nanoseconds := by
    rw [wholeSeconds, restNanos]
    simp only [nanosPerSecond]
    omega
  simp only [add?, forward, true_or, if_true]
  cases leap : instant.isLeap with
  | true =>
      rw [isLeap_eq_true_iff] at leap
      have fraction : (instant.nano - nanosPerSecond : Int) =
          (instant.nano % nanosPerSecond : Nat) := by
        simp only [nanosPerSecond] at *
        omega
      rw [if_pos rfl, fraction, carry_eq_some_iff, arrival, departure] <;>
        simp only [restNanos, nanosPerSecond] <;> omega
  | false =>
      rw [isLeap_eq_false_iff] at leap
      rw [if_neg Bool.false_ne_true, carry_eq_some_iff, arrival, departure,
        Nat.mod_eq_of_lt leap] <;>
        simp only [restNanos, nanosPerSecond] at * <;> omega

/-- Outside leap seconds a move either way ends outside leap seconds, as many positions
away as the span is long. -/
theorem add?_eq_some_iff_of_regular (regular : instant.isLeap = false) :
    instant.add? span = some later ↔
      later.isLeap = false ∧ later.position = instant.position + span.nanoseconds := by
  have nanos := isLeap_eq_false_iff.mp regular
  have parts : span.wholeSeconds * nanosPerSecond + span.restNanos = span.nanoseconds := by
    rw [Int.mul_comm]
    exact Int.mul_tdiv_add_tmod _ _
  have short : span.restNanos.natAbs < nanosPerSecond := by
    rw [Span.restNanos, Int.natAbs_tmod]
    exact Nat.mod_lt _ (by decide)
  have arrival : (instant.second + span.wholeSeconds) * nanosPerSecond +
      (instant.nano + span.restNanos) = instant.position + span.nanoseconds := by
    rw [position, Int.add_mul]
    omega
  simp only [add?, regular, Bool.false_eq_true, if_false]
  rw [carry_eq_some_iff, arrival] <;> simp only [nanosPerSecond] at * <;> omega

/-- Outside leap seconds milliseconds never run backwards. -/
theorem millis_le_of_le (regular : left.isLeap = false) (order : left ≤ right) :
    left.millis ≤ right.millis := by
  rw [isLeap_eq_false_iff] at regular
  rw [le_def] at order
  simp only [millis, nanosPerSecond] at *
  omega

/-- No two instants are as many milliseconds apart as the longest span. -/
theorem millis_sub_lt (left right : Instant) : left.millis - right.millis < 9223372036854775807 := by
  have leftSeconds := left.valid.1
  have rightSeconds := right.valid.1
  have leftNanos := left.nano_lt
  simp only [millis, firstSecond, lastSecond, nanosPerSecond] at *
  omega

end Instant
end Admission
