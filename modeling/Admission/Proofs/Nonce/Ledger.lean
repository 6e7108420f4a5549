import Mathlib.Data.List.Induction
import Admission.Proofs.Nonce.Table

/-!
# Tables and ledgers

A ledger keeps every use that was granted and drops none. A table drops entries, but
only those whose expiry a call has read on its clock. So a nonce is granted again only
after such a reading, and as long as the clock of the calls never goes back the two
answer alike: what the table has dropped, the ledger no longer counts.
-/

namespace Admission

/-- A use of a nonce as it is asked for, with the clock reading of the call. -/
structure NonceTable.Call where
  now : Instant
  scope : String
  nonce : String
  expiry : Instant
deriving DecidableEq, Repr

namespace NonceTable.Call

/-- Two calls ask for the same nonce. -/
def Rivals (first second : Call) : Prop :=
  first.scope = second.scope ∧ first.nonce = second.nonce

/-- What is kept of a call that is granted. -/
def entry (call : Call) : UsedNonce := ⟨call.scope, call.nonce, call.expiry⟩

end NonceTable.Call

namespace NonceTable

variable {table : NonceTable} {call first second : Call} {calls between : List Call}
  {entry : UsedNonce}

/-- The answer to a call. -/
def answer (table : NonceTable) (call : Call) : Except NonceFault Bool :=
  (table.use call.now call.scope call.nonce call.expiry).1

/-- The table after a call. -/
def after (table : NonceTable) (call : Call) : NonceTable :=
  (table.use call.now call.scope call.nonce call.expiry).2

/-- The table after calls one after the other. -/
def run (table : NonceTable) (calls : List Call) : NonceTable := calls.foldl after table

/-- The answers to calls one after the other. -/
def answers (table : NonceTable) : List Call → List (Except NonceFault Bool)
  | [] => []
  | call :: calls => table.answer call :: (table.after call).answers calls

/-- A call is granted exactly when its expiry lies ahead and no use of the nonce lives. -/
theorem answer_eq_true_iff : table.answer call = .ok true ↔
    call.now < call.expiry ∧ ¬ table.Tracks call.now call.scope call.nonce :=
  use_eq_true_iff

/-- A granted call leaves its entry in front of those that live. -/
theorem after_of_granted (granted : table.answer call = .ok true) :
    table.after call = ⟨call.entry :: (table.live call.now).entries⟩ := by
  obtain ⟨ahead, unused⟩ := answer_eq_true_iff.mp granted
  rw [after, use_of_not_tracks ahead unused]
  rfl

/-- A call that is answered leaves only entries that live on. -/
theorem lives_of_answered {answered : Bool} (answers : table.answer call = .ok answered)
    (member : entry ∈ (table.after call).entries) : call.now < entry.expiry := by
  have ahead : call.now < call.expiry := by
    refine lt_of_not_ge fun passed => ?_
    rw [answer, use_of_passed passed] at answers
    cases answers
  by_cases tracked : table.Tracks call.now call.scope call.nonce
  · rw [after, use_of_tracks ahead tracked] at member
    exact (mem_live.mp member).2
  · rw [after_of_granted (answer_eq_true_iff.mpr ⟨ahead, tracked⟩)] at member
    rcases List.mem_cons.mp member with rfl | member
    · exact ahead
    · exact (mem_live.mp member).2

/-- A call reads a clock at which an entry has expired, and sweeps it. -/
def Call.Sweeps (call : Call) (entry : UsedNonce) : Prop :=
  entry.expiry ≤ call.now ∧ call.now < call.expiry

/-- An entry stays through a call that does not sweep it. -/
theorem mem_after (member : entry ∈ table.entries) (kept : ¬ call.Sweeps entry) :
    entry ∈ (table.after call).entries := by
  by_cases lives : call.now < entry.expiry
  · exact mem_use member lives
  · have passed : call.expiry ≤ call.now :=
      le_of_not_gt fun ahead => kept ⟨le_of_not_gt lives, ahead⟩
    rw [after, use_of_passed passed]
    exact member

/-- An entry stays through calls none of which sweeps it. -/
theorem mem_run (member : entry ∈ table.entries)
    (kept : ∀ call ∈ calls, ¬ call.Sweeps entry) : entry ∈ (table.run calls).entries := by
  induction calls generalizing table with
  | nil => exact member
  | cons call calls inductionHypothesis =>
      have next := mem_after member (kept call List.mem_cons_self)
      exact inductionHypothesis next fun later among =>
        kept later (List.mem_cons_of_mem _ among)

/-- Of two granted calls for one nonce, the second sweeps the entry of the first, or a call
between them does. -/
theorem sweeps_of_granted_again (rivals : first.Rivals second)
    (granted : table.answer first = .ok true)
    (again : ((table.after first).run between).answer second = .ok true) :
    ∃ call ∈ between ++ [second], call.Sweeps first.entry := by
  obtain ⟨ahead, unused⟩ := answer_eq_true_iff.mp again
  by_cases kept : ∀ call ∈ between, ¬ call.Sweeps first.entry
  · have stored : first.entry ∈ (table.after first).entries := by
      rw [after_of_granted granted]
      exact List.mem_cons_self
    have held := mem_run stored kept
    have passed : first.entry.expiry ≤ second.now :=
      le_of_not_gt fun lives => unused ⟨first.entry, held, rivals.1, rivals.2, lives⟩
    exact ⟨second, by simp, passed, ahead⟩
  · simp only [Classical.not_forall, Classical.not_not] at kept
    obtain ⟨call, among, sweeps⟩ := kept
    exact ⟨call, List.mem_append_left _ among, sweeps⟩

end NonceTable

/-- The uses that were granted, none of them dropped. -/
structure NonceLedger where
  granted : List UsedNonce
deriving DecidableEq, Repr

namespace NonceLedger

open NonceTable (Call)

variable {ledger : NonceLedger} {table : NonceTable} {now later : Instant} {call : Call}
  {calls : List Call} {entry : UsedNonce}

/-- No use granted. -/
def empty : NonceLedger := ⟨[]⟩

/-- Whether a use granted earlier lives on after the reading of a call. -/
def taken (ledger : NonceLedger) (call : Call) : Bool :=
  ledger.granted.any fun entry =>
    entry.scope == call.scope && entry.nonce == call.nonce && decide (call.now < entry.expiry)

/-- The answer to a call: the expiry must lie ahead, and the nonce must be free. -/
def answer (ledger : NonceLedger) (call : Call) : Except NonceFault Bool :=
  if call.expiry ≤ call.now then .error (.expiryPassed call.expiry) else .ok (!ledger.taken call)

/-- The ledger after a call. -/
def after (ledger : NonceLedger) (call : Call) : NonceLedger :=
  match ledger.answer call with
  | .ok true => ⟨call.entry :: ledger.granted⟩
  | _ => ledger

/-- The ledger after calls one after the other. -/
def run (ledger : NonceLedger) (calls : List Call) : NonceLedger := calls.foldl after ledger

/-- The answers to calls one after the other. -/
def answers (ledger : NonceLedger) : List Call → List (Except NonceFault Bool)
  | [] => []
  | call :: calls => ledger.answer call :: (ledger.after call).answers calls

theorem taken_iff : ledger.taken call = true ↔
    ∃ entry ∈ ledger.granted,
      entry.scope = call.scope ∧ entry.nonce = call.nonce ∧ call.now < entry.expiry := by
  simp [taken, and_assoc]

/-- A call is granted exactly when its expiry lies ahead and every earlier use of the nonce
has expired. -/
theorem answer_eq_true_iff : ledger.answer call = .ok true ↔
    call.now < call.expiry ∧
      ∀ entry ∈ ledger.granted, entry.scope = call.scope → entry.nonce = call.nonce →
        entry.expiry ≤ call.now := by
  have free : ledger.taken call = false ↔
      ∀ entry ∈ ledger.granted, entry.scope = call.scope → entry.nonce = call.nonce →
        entry.expiry ≤ call.now := by
    rw [← Bool.not_eq_true, taken_iff]
    simp only [not_exists, not_and, not_lt]
  by_cases passed : call.expiry ≤ call.now
  · simp [answer, passed, not_lt.mpr passed]
  · simp [answer, passed, not_le.mp passed, free]

theorem after_of_granted (granted : ledger.answer call = .ok true) :
    ledger.after call = ⟨call.entry :: ledger.granted⟩ := by
  rw [after, granted]

theorem after_of_refused (refused : ledger.answer call ≠ .ok true) :
    ledger.after call = ledger := by
  unfold after
  split
  · rename_i granted
    exact absurd granted refused
  · rfl

/-- What a ledger holds are the calls it granted. -/
theorem mem_run_iff : entry ∈ (empty.run calls).granted ↔
    ∃ before earlier rest, calls = before ++ earlier :: rest ∧
      (empty.run before).answer earlier = .ok true ∧ entry = earlier.entry := by
  induction calls using List.reverseRecOn with
  | nil => simp [run, empty]
  | append_singleton calls call inductionHypothesis =>
      have extended : empty.run (calls ++ [call]) = (empty.run calls).after call := by
        simp [run]
      rw [extended]
      constructor
      · intro member
        by_cases granted : (empty.run calls).answer call = .ok true
        · rw [after_of_granted granted] at member
          rcases List.mem_cons.mp member with rfl | member
          · exact ⟨calls, call, [], rfl, granted, rfl⟩
          · obtain ⟨before, earlier, rest, rfl, chosen, same⟩ := inductionHypothesis.mp member
            exact ⟨before, earlier, rest ++ [call], by simp, chosen, same⟩
        · rw [after_of_refused granted] at member
          obtain ⟨before, earlier, rest, rfl, chosen, same⟩ := inductionHypothesis.mp member
          exact ⟨before, earlier, rest ++ [call], by simp, chosen, same⟩
      · rintro ⟨before, earlier, rest, split, chosen, rfl⟩
        -- The granted call is the last one, or the history ends after it with the last one.
        rcases List.eq_nil_or_concat rest with rfl | ⟨rest, last, rfl⟩
        · obtain ⟨rfl, same⟩ := List.append_inj' split rfl
          cases same
          rw [after_of_granted chosen]
          exact List.mem_cons_self
        · have parts : calls = before ++ earlier :: rest ∧ [call] = [last] := by
            refine List.append_inj' ?_ rfl
            simpa using split
          have member := inductionHypothesis.mpr ⟨before, earlier, rest, parts.1, chosen, rfl⟩
          by_cases granted : (empty.run calls).answer call = .ok true
          · rw [after_of_granted granted]
            exact List.mem_cons_of_mem _ member
          · rw [after_of_refused granted]
            exact member

/-- The table and the ledger hold the same of what lives after an instant. -/
def Matches (ledger : NonceLedger) (table : NonceTable) (now : Instant) : Prop :=
  ∀ entry : UsedNonce, now < entry.expiry → (entry ∈ table.entries ↔ entry ∈ ledger.granted)

namespace Matches

variable (alike : ledger.Matches table now)

include alike

/-- Later they still do. -/
theorem mono (order : now ≤ later) : ledger.Matches table later :=
  fun entry lives => alike entry (lt_of_le_of_lt order lives)

end Matches

variable (alike : ledger.Matches table call.now)

include alike

/-- A call finds the nonce free in both or in neither. -/
theorem taken_iff_tracks :
    ledger.taken call = true ↔ table.Tracks call.now call.scope call.nonce := by
  rw [taken_iff]
  constructor
  · rintro ⟨entry, member, sameScope, sameNonce, lives⟩
    exact ⟨entry, (alike entry lives).mpr member, sameScope, sameNonce, lives⟩
  · rintro ⟨entry, member, sameScope, sameNonce, lives⟩
    exact ⟨entry, (alike entry lives).mp member, sameScope, sameNonce, lives⟩

/-- Table and ledger answer a call alike. -/
theorem answer_eq : table.answer call = ledger.answer call := by
  by_cases passed : call.expiry ≤ call.now
  · rw [NonceTable.answer, NonceTable.use_of_passed passed, answer, if_pos passed]
  · have ahead := lt_of_not_ge passed
    rw [answer, if_neg passed, NonceTable.answer]
    by_cases tracked : table.Tracks call.now call.scope call.nonce
    · rw [NonceTable.use_of_tracks ahead tracked, (taken_iff_tracks alike).mpr tracked]
      rfl
    · have free : ledger.taken call = false := by
        rw [← Bool.not_eq_true, taken_iff_tracks alike]
        exact tracked
      rw [NonceTable.use_of_not_tracks ahead tracked, free]
      rfl

/-- After a call they match as before. -/
theorem matches_after : (ledger.after call).Matches (table.after call) call.now := by
  intro entry lives
  by_cases granted : table.answer call = .ok true
  · have recorded : ledger.answer call = .ok true := by rw [← answer_eq alike, granted]
    rw [NonceTable.after_of_granted granted, after_of_granted recorded, List.mem_cons,
      List.mem_cons, NonceTable.mem_live, alike entry lives]
    simp [lives]
  · have refused : ledger.answer call ≠ .ok true := by rwa [← answer_eq alike]
    have swept := NonceTable.live_use_of_not_true (le_refl call.now) granted
    have same : entry ∈ ((table.after call).live call.now).entries ↔
        entry ∈ (table.live call.now).entries := by
      rw [NonceTable.after, swept]
    rw [NonceTable.mem_live, NonceTable.mem_live] at same
    rw [after_of_refused refused, ← alike entry lives]
    simpa [lives] using same

omit alike

/-- Along calls whose clock never goes back table and ledger answer alike. -/
theorem answers_eq (alike : ledger.Matches table now)
    (ahead : ∀ call ∈ calls, now ≤ call.now)
    (ordered : calls.Pairwise fun earlier later => earlier.now ≤ later.now) :
    table.answers calls = ledger.answers calls := by
  induction calls generalizing table ledger now with
  | nil => rfl
  | cons call calls inductionHypothesis =>
      obtain ⟨next, rest⟩ := List.pairwise_cons.mp ordered
      have alike := alike.mono (ahead call List.mem_cons_self)
      have answered := answer_eq alike
      have continued := inductionHypothesis (matches_after alike) next rest
      rw [NonceTable.answers, answers, answered, continued]

end NonceLedger

/-- Of two granted calls for one nonce the second, or a call between them that is answered,
read a clock at or past the expiry of the first. Where the readings never go back, every
answer is that of a ledger that drops nothing, which grants a call exactly when its expiry
lies ahead and no earlier granted call for the nonce expires later than its reading; and
after every call that is answered all entries expire after its reading. -/
theorem NonceTable.calls_agree_with_ledger :
    (∀ (table : NonceTable) (first second : Call) (between : List Call),
        first.Rivals second → table.answer first = .ok true →
        ((table.after first).run between).answer second = .ok true →
        ∃ call ∈ between ++ [second], first.expiry ≤ call.now ∧ call.now < call.expiry) ∧
      (∀ calls : List Call, (calls.Pairwise fun earlier later => earlier.now ≤ later.now) →
        NonceTable.empty.answers calls = NonceLedger.empty.answers calls) ∧
      (∀ (calls : List Call) (call : Call),
        (NonceLedger.empty.run calls).answer call = .ok true ↔
          call.now < call.expiry ∧
            ∀ before earlier rest, calls = before ++ earlier :: rest →
              (NonceLedger.empty.run before).answer earlier = .ok true →
              earlier.Rivals call → earlier.expiry ≤ call.now) ∧
      ∀ (calls : List Call) (call : Call) (answered : Bool),
        (NonceTable.empty.run calls).answer call = .ok answered →
        ∀ entry ∈ ((NonceTable.empty.run calls).after call).entries, call.now < entry.expiry := by
  refine ⟨?spaced, ?alike, ?ideal, ?lives⟩
  case spaced =>
    intro table first second between rivals granted again
    exact sweeps_of_granted_again rivals granted again
  case alike =>
    intro calls ordered
    cases calls with
    | nil => rfl
    | cons call calls =>
        have start : NonceLedger.empty.Matches NonceTable.empty call.now := fun _ _ => Iff.rfl
        refine NonceLedger.answers_eq start ?_ ordered
        intro later among
        rcases List.mem_cons.mp among with rfl | among
        · exact le_refl _
        · exact (List.pairwise_cons.mp ordered).1 later among
  case ideal =>
    intro calls call
    rw [NonceLedger.answer_eq_true_iff]
    refine and_congr_right fun _ => ?_
    constructor
    · intro expired before earlier rest split granted rivals
      have member := NonceLedger.mem_run_iff.mpr ⟨before, earlier, rest, split, granted, rfl⟩
      exact expired earlier.entry member rivals.1 rivals.2
    · intro expired entry member sameScope sameNonce
      obtain ⟨before, earlier, rest, split, granted, rfl⟩ := NonceLedger.mem_run_iff.mp member
      exact expired before earlier rest split granted ⟨sameScope, sameNonce⟩
  case lives =>
    intro calls call answered answers entry member
    exact lives_of_answered answers member

namespace NonceTable.Overtaken

/-- The first use of a nonce. -/
def first : Call where
  now := ⟨1700000000, 0, by decide⟩
  scope := "webhooks/test"
  nonce := "nonce-1"
  expiry := ⟨1700000060, 0, by decide⟩

/-- A call for another nonce at the expiry of the first. -/
def sweeper : Call where
  now := first.expiry
  scope := "webhooks/test"
  nonce := "nonce-2"
  expiry := ⟨1700000120, 0, by decide⟩

/-- A replay of the first use. -/
def replay : Call := { first with now := ⟨1700000059, 999999999, by decide⟩ }

end NonceTable.Overtaken

open NonceTable.Overtaken

/-- A replay that read its clock before the first use expired is refused when it comes
next, and granted when it is overtaken by a call that read its clock later. -/
theorem NonceTable.overtaken_replay_granted :
    NonceTable.empty.answers [first, replay, sweeper] = [.ok true, .ok false, .ok true] ∧
      NonceTable.empty.answers [first, replay, sweeper] =
        NonceLedger.empty.answers [first, replay, sweeper] ∧
      NonceTable.empty.answers [first, sweeper, replay] = [.ok true, .ok true, .ok true] ∧
      (∃ call ∈ [sweeper, replay], first.expiry ≤ call.now ∧ call.now < call.expiry) ∧
      ∀ entry ∈ (NonceTable.empty.run [first, sweeper]).entries, sweeper.now < entry.expiry := by
  obtain ⟨spaced, alike, _, lives⟩ := calls_agree_with_ledger
  have ordered : [first, replay, sweeper].Pairwise fun earlier later =>
      earlier.now ≤ later.now := by
    simp only [List.pairwise_cons]
    decide
  exact ⟨rfl, alike _ ordered, rfl, spaced .empty first replay [sweeper] ⟨rfl, rfl⟩ rfl rfl,
    lives [first] sweeper true rfl⟩

end Admission
