import Mathlib.Data.List.Perm.Basic
import Admission.Decision

/-!
# Counts of decisions

The counts of a record hold each pair of channel and reason that was recorded, with the number of
its decisions. They do not depend on the order of the record.
-/

namespace Admission.Decision

/-- What a decision says, without the time that it took. -/
def told (decision : Decision) : Channel × Bool × String :=
  (decision.channel, decision.success, decision.reason)

variable {record other : List Decision} {channel : Channel} {reason : String}

@[simp] theorem count_nil : count [] channel reason = 0 := rfl

theorem count_append :
    count (record ++ other) channel reason =
      count record channel reason + count other channel reason := by
  simp only [count, List.filter_append, List.length_append]

theorem count_singleton (decision : Decision) :
    count [decision] channel reason =
      if decision.channel = channel ∧ decision.reason = reason then 1 else 0 := by
  by_cases told : decision.channel = channel ∧ decision.reason = reason
  · simp [count, told]
  · rw [if_neg told, count, List.filter_cons_of_neg (by simpa using told), List.filter_nil,
      List.length_nil]

theorem count_perm (same : record.Perm other) :
    count record channel reason = count other channel reason :=
  (same.filter _).length_eq

theorem count_pos_iff :
    0 < count record channel reason ↔
      ∃ decision ∈ record, decision.channel = channel ∧ decision.reason = reason := by
  simp [count, List.length_pos_iff_exists_mem]

/-- The counts hold just the pairs that were recorded, with the numbers of their decisions. -/
theorem mem_counts_iff {number : Nat} :
    (channel, reason, number) ∈ counts record ↔
      0 < number ∧ number = count record channel reason := by
  simp only [counts, List.mem_map, List.mem_eraseDups, Prod.mk.injEq, Prod.exists]
  constructor
  · rintro ⟨_, _, ⟨decision, among, rfl, rfl⟩, rfl, rfl, rfl⟩
    exact ⟨count_pos_iff.mpr ⟨decision, among, rfl, rfl⟩, rfl⟩
  · rintro ⟨positive, rfl⟩
    obtain ⟨decision, among, rfl, rfl⟩ := count_pos_iff.mp positive
    exact ⟨_, _, ⟨decision, among, rfl, rfl⟩, rfl, rfl, rfl⟩

end Admission.Decision
