import Admission.Nonce
import Admission.Proofs.Time.Position

/-!
# Tables of used nonces

What one use of a nonce does to a table, and which entries a sweep leaves. A
sweep at an instant is undone by no later one: sweeping later gives the same
table whether or not an earlier sweep came before.
-/

namespace Admission.NonceTable

variable {table : NonceTable} {now later expiry : Instant} {scope nonce : String}

/-- Whether a use of the nonce lives on after an instant. -/
def Tracks (table : NonceTable) (now : Instant) (scope nonce : String) : Prop :=
  ∃ entry ∈ table.entries, entry.scope = scope ∧ entry.nonce = nonce ∧ now < entry.expiry

@[simp] theorem mem_live {entry : UsedNonce} :
    entry ∈ (table.live now).entries ↔ entry ∈ table.entries ∧ now < entry.expiry := by
  simp [live]

/-- A later sweep makes an earlier one void. -/
theorem live_live (order : now ≤ later) : (table.live now).live later = table.live later := by
  simp only [live, List.filter_filter, NonceTable.mk.injEq]
  apply List.filter_congr
  intro entry _
  by_cases lives : later < entry.expiry
  · simp [lives, lt_of_le_of_lt order lives]
  · simp [lives]

theorem contains_live_iff : (table.live now).contains scope nonce = true ↔
    table.Tracks now scope nonce := by
  simp only [contains, List.any_eq_true, mem_live, Bool.and_eq_true, beq_iff_eq, Tracks]
  constructor
  · rintro ⟨entry, ⟨member, lives⟩, sameScope, sameNonce⟩
    exact ⟨entry, member, sameScope, sameNonce, lives⟩
  · rintro ⟨entry, member, sameScope, sameNonce, lives⟩
    exact ⟨entry, ⟨member, lives⟩, sameScope, sameNonce⟩

/-- A passed expiry is refused and changes nothing. -/
theorem use_of_passed (passed : expiry ≤ now) :
    table.use now scope nonce expiry = (.error (.expiryPassed expiry), table) := by
  rw [use, if_pos passed]

/-- A nonce that lives is a replay; the use only sweeps. -/
theorem use_of_tracks (ahead : now < expiry) (tracked : table.Tracks now scope nonce) :
    table.use now scope nonce expiry = (.ok false, table.live now) := by
  rw [use, if_neg (not_le_of_gt ahead), if_pos (contains_live_iff.mpr tracked)]

/-- A nonce that does not live is used; its entry joins the living ones. -/
theorem use_of_not_tracks (ahead : now < expiry) (unused : ¬ table.Tracks now scope nonce) :
    table.use now scope nonce expiry =
      (.ok true, ⟨⟨scope, nonce, expiry⟩ :: (table.live now).entries⟩) := by
  rw [use, if_neg (not_le_of_gt ahead), if_neg (fun found => unused (contains_live_iff.mp found))]

/-- A use succeeds exactly when its expiry lies ahead and no use of the nonce lives. -/
theorem use_eq_true_iff : (table.use now scope nonce expiry).1 = .ok true ↔
    now < expiry ∧ ¬ table.Tracks now scope nonce := by
  by_cases ahead : now < expiry
  · by_cases tracked : table.Tracks now scope nonce
    · simp [use_of_tracks ahead tracked, tracked]
    · simp [use_of_not_tracks ahead tracked, tracked, ahead]
  · simp [use_of_passed (le_of_not_gt ahead), ahead]

/-- An expiry is refused exactly when it has passed. -/
theorem use_eq_expiryPassed_iff :
    (table.use now scope nonce expiry).1 = .error (.expiryPassed expiry) ↔ expiry ≤ now := by
  refine ⟨fun refused => ?_, fun passed => by rw [use_of_passed passed]⟩
  by_contra ahead
  rw [not_le] at ahead
  by_cases tracked : table.Tracks now scope nonce
  · rw [use_of_tracks ahead tracked] at refused
    cases refused
  · rw [use_of_not_tracks ahead tracked] at refused
    cases refused

/-- The living entries decide a use: tables that agree on them answer alike and
agree on them afterwards. -/
theorem use_congr {other : NonceTable} (alike : table.live now = other.live now) :
    (table.use now scope nonce expiry).1 = (other.use now scope nonce expiry).1 ∧
      (table.use now scope nonce expiry).2.live now =
        (other.use now scope nonce expiry).2.live now := by
  by_cases ahead : now < expiry
  · have same : table.use now scope nonce expiry = other.use now scope nonce expiry := by
      simp only [use, alike, not_le_of_gt ahead, if_false]
    rw [same]
    exact ⟨rfl, rfl⟩
  · rw [use_of_passed (le_of_not_gt ahead), use_of_passed (le_of_not_gt ahead)]
    exact ⟨rfl, alike⟩

/-- A use that does not succeed leaves the living entries as they were. -/
theorem live_use_of_not_true (order : now ≤ later)
    (refused : (table.use now scope nonce expiry).1 ≠ .ok true) :
    (table.use now scope nonce expiry).2.live later = table.live later := by
  by_cases ahead : now < expiry
  · by_cases tracked : table.Tracks now scope nonce
    · rw [use_of_tracks ahead tracked]
      exact live_live order
    · exact absurd (use_eq_true_iff.mpr ⟨ahead, tracked⟩) refused
  · rw [use_of_passed (le_of_not_gt ahead)]

/-- An entry stays in the table through a use until its expiry has come. -/
theorem mem_use {entry : UsedNonce} (member : entry ∈ table.entries) (lives : now < entry.expiry) :
    entry ∈ (table.use now scope nonce expiry).2.entries := by
  by_cases ahead : now < expiry
  · by_cases tracked : table.Tracks now scope nonce
    · rw [use_of_tracks ahead tracked]
      exact mem_live.mpr ⟨member, lives⟩
    · rw [use_of_not_tracks ahead tracked]
      exact List.mem_cons_of_mem _ (mem_live.mpr ⟨member, lives⟩)
  · rw [use_of_passed (le_of_not_gt ahead)]
    exact member

end Admission.NonceTable
