import Mathlib.Data.List.Induction
import Admission.Json

/-!
# Members of objects

Looking a member up takes the last value of its name, and `distinct` keeps exactly the values
that looking up finds.
-/

namespace Admission.Json

variable {members first second : List (String × Json)} {member : String × Json}
  {name other : String} {value : Json}

theorem text?_eq_some_iff {content : String} :
    value.text? = some content ↔ value = .text content := by
  cases value <;> simp [Json.text?]

theorem bool?_eq_some_iff {truth : Bool} : value.bool? = some truth ↔ value = .bool truth := by
  cases value <;> simp [Json.bool?]

theorem members?_eq_some_iff : value.members? = some members ↔ value = .object members := by
  cases value <;> simp [Json.members?]

theorem lookup?_append :
    lookup? (first ++ second) name = (lookup? second name).or (lookup? first name) := by
  induction first with
  | nil => simp [lookup?]
  | cons member first inductionHypothesis =>
      rw [List.cons_append, lookup?, lookup?, inductionHypothesis]
      cases lookup? second name <;> simp

/-- Members of another name have no part in looking a name up. -/
theorem lookup?_filter_ne (different : name ≠ other) :
    lookup? (members.filter fun member => member.1 ≠ other) name = lookup? members name := by
  induction members with
  | nil => rfl
  | cons member members inductionHypothesis =>
      by_cases kept : member.1 = other
      · have unlike : member.1 ≠ name := fun same => different (same.symm.trans kept)
        rw [List.filter_cons_of_neg (by simpa using kept), inductionHypothesis, lookup?,
          if_neg unlike]
        cases lookup? members name <;> rfl
      · rw [List.filter_cons_of_pos (by simpa using kept), lookup?, lookup?, inductionHypothesis]

/-- A last member takes the place of an earlier one of its name, or else comes last. -/
theorem distinct_concat :
    distinct (members ++ [member]) =
      if (distinct members).any fun other => other.1 == member.1 then
        (distinct members).map fun other => if other.1 == member.1 then member else other
      else distinct members ++ [member] := by
  rw [distinct, List.foldl_append]
  rfl

theorem mem_distinct_concat :
    (name, value) ∈ distinct (members ++ [member]) ↔
      member = (name, value) ∨ (member.1 ≠ name ∧ (name, value) ∈ distinct members) := by
  rw [distinct_concat]
  split
  · rename_i repeated
    obtain ⟨earlier, among, sameName⟩ := List.any_eq_true.mp repeated
    rw [List.mem_map]
    constructor
    · rintro ⟨other, otherAmong, replaced⟩
      split at replaced
      · exact .inl replaced
      · rename_i unlike
        subst replaced
        exact .inr ⟨fun same => unlike (by simp [same]), otherAmong⟩
    · rintro (rfl | ⟨unlike, kept⟩)
      · exact ⟨earlier, among, if_pos sameName⟩
      · exact ⟨(name, value), kept, if_neg (by simpa using Ne.symm unlike)⟩
  · rename_i new
    rw [List.mem_append, List.mem_singleton]
    constructor
    · rintro (kept | rfl)
      · refine .inr ⟨fun same => new (List.any_eq_true.mpr ⟨_, kept, by simp [same]⟩), kept⟩
      · exact .inl rfl
    · rintro (rfl | ⟨_, kept⟩)
      · exact .inr rfl
      · exact .inl kept

/-- The value of a distinct member is the one that looking its name up finds. -/
theorem mem_distinct_iff :
    (name, value) ∈ distinct members ↔ lookup? members name = some value := by
  induction members using List.reverseRecOn with
  | nil => simp [distinct, lookup?]
  | append_singleton members member inductionHypothesis =>
      rw [mem_distinct_concat, lookup?_append, inductionHypothesis]
      obtain ⟨candidate, content⟩ := member
      by_cases same : candidate = name
      · simp [lookup?, same]
      · simp [lookup?, same]

end Admission.Json
