import Admission.Proofs.Outcome
import Admission.Proofs.Text.Splitting
import Admission.Settings

/-!
# What settings are read from

A list holds what is written between the commas of its variable, without surrounding blanks
and without what is blank. So a variable that is not blank may still hold an empty list.
What is expected of service tokens is read from two variables.
-/

namespace Admission.Settings

variable {lookup : Lookup} {name raw item : String} {settings : Settings}

/-- What is written between the commas of a text, without surrounding blanks. -/
def written (raw : String) : List String := (Text.pieces ',' raw.toList).map String.ofList

theorem written_trim (raw : String) : written (Text.trim raw) = written raw := by
  rw [written, written, Text.trim, String.toList_ofList, Text.pieces_trimSymbols (by decide)]

/-- The items of a text are what is written between its commas and is not blank. -/
theorem mem_items_iff : item ∈ items raw ↔ item ∈ written raw ∧ item ≠ "" := by
  simp only [items, written, Text.pieces, List.mem_filterMap, List.map_map, List.mem_map,
    Function.comp_apply, List.isEmpty_iff]
  constructor
  · rintro ⟨part, among, kept⟩
    split at kept
    · cases kept
    · rename_i nonempty
      cases kept
      exact ⟨⟨part, among, rfl⟩, by simpa using nonempty⟩
  · rintro ⟨⟨part, among, rfl⟩, nonempty⟩
    exact ⟨part, among, if_neg (by simpa using nonempty)⟩

/-- A list holds what is written between the commas of its variable and is not blank. -/
theorem mem_listed_iff :
    item ∈ listed lookup name ↔
      (∃ raw, lookup name = some raw ∧ item ∈ written raw) ∧ item ≠ "" := by
  cases held : lookup name with
  | none => simp [listed, value?, held]
  | some raw =>
      simp only [listed, value?, held, Option.bind_some, Option.some.injEq, exists_eq_left']
      rw [← written_trim]
      split
      · rename_i blank
        rw [String.isEmpty_iff.mp blank]
        simp [written, Text.pieces, Text.split, Text.trimSymbols, Text.trimStart, Text.trimEnd]
      · rw [Option.map_some, Option.getD_some]
        exact mem_items_iff

/-- A list is empty exactly when nothing but blanks is written between the commas of its
variable. -/
theorem listed_eq_nil_iff (held : lookup name = some raw) :
    listed lookup name = [] ↔ ∀ item ∈ written raw, item = "" := by
  simp only [List.eq_nil_iff_forall_not_mem, mem_listed_iff, held, Option.some.injEq,
    exists_eq_left', not_and, ne_eq, not_not]

/-- The service routes of settings are those that the values of variables give. -/
theorem service_of_ofLookup (loaded : ofLookup lookup = .ok settings) :
    serviceRoutes lookup = .ok settings.service := by
  simp only [ofLookup, Outcome.bind_eq_ok_iff] at loaded
  obtain ⟨service, routed, rest⟩ := loaded
  obtain ⟨_, _, _, _, _, _, _, _, _, _, _, _, _, _, _, _, _, _, _, _, same⟩ := rest
  cases same
  exact routed

/-- What is expected of service tokens is read from the audience and the allowed issuers. -/
theorem callers_of_ofLookup (loaded : ofLookup lookup = .ok settings) :
    settings.callers = (value? lookup "OIDC_AUDIENCE").map fun audience =>
      ⟨audience, listed lookup "OIDC_ALLOWED_ISSUERS", Service.defaultLeeway⟩ := by
  have routed := service_of_ofLookup loaded
  unfold serviceRoutes at routed
  split at routed
  · rename_i held
    rw [callers, ← Except.ok.inj routed, held]
    rfl
  · cases routed
  · rename_i unset _
    rw [callers, ← Except.ok.inj routed, unset]
    rfl

end Admission.Settings
