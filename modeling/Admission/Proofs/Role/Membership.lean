import Admission.Role

/-!
# Members of role sets

Which roles a list of texts amounts to, whatever their order and repetitions.
-/

namespace Admission.Role

variable {role other : String} {roles names texts : List String}

theorem mem_insert : other ∈ insert role roles ↔ other = role ∨ other ∈ roles := by
  induction roles with
  | nil => simp [insert]
  | cons first rest inductionHypothesis =>
      unfold insert
      split
      · exact List.mem_cons
      · split
        · rename_i same
          rw [same, List.mem_cons]
          constructor
          · exact fun among => .inr among
          · exact fun among => among.elim .inl id
        · rw [List.mem_cons, inductionHypothesis, List.mem_cons]
          exact or_left_comm

theorem mem_foldl_insert :
    other ∈ names.foldl (fun roles role => insert role roles) roles ↔
      other ∈ names ∨ other ∈ roles := by
  induction names generalizing roles with
  | nil => simp
  | cons name names inductionHypothesis =>
      rw [List.foldl_cons, inductionHypothesis, mem_insert, List.mem_cons]
      constructor
      · rintro (among | rfl | among)
        · exact .inl (.inr among)
        · exact .inl (.inl rfl)
        · exact .inr among
      · rintro ((rfl | among) | among)
        · exact .inr (.inl rfl)
        · exact .inl among
        · exact .inr (.inr among)

/-- Texts amount to the roles that they name. -/
theorem mem_ofTexts : role ∈ ofTexts texts ↔ ∃ text ∈ texts, normalize? text = some role := by
  simp [ofTexts, mem_foldl_insert]

/-- Texts amount to no role exactly when none of them names one. -/
theorem ofTexts_eq_nil_iff : ofTexts texts = [] ↔ ∀ text ∈ texts, normalize? text = none := by
  rw [List.eq_nil_iff_forall_not_mem]
  simp only [mem_ofTexts, not_exists, not_and]
  constructor
  · intro empty text among
    cases named : normalize? text with
    | none => rfl
    | some role => exact absurd named (empty role text among)
  · intro blank role text among named
    rw [blank text among] at named
    cases named

end Admission.Role
