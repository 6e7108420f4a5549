import Admission.Proofs.KeySet.History
import Admission.Proofs.KeySet.Installation

/-!
# Refreshes that take turns

Lookups read the generation at hand and wait for their turn to refresh it, one after the other.
Only the first turns fetch, up to the one whose fetch brings keys; every later turn finds that
its generation has been replaced and takes what is there. Beyond such a burst, whatever is done
to a cache, its generation counts the fetches that brought keys.
-/

namespace Admission.KeyCache

variable {cache before after : KeyCache} {snapshot : Snapshot} {observed : Nat} {now : Instant}
  {reply : Reply} {actions : List Action}

/-! ## Turns -/

/-- One turn to refresh. -/
structure Turn where
  /-- When the turn comes. -/
  granted : Instant
  /-- When a fetch made in the turn reads the clock. -/
  answered : Instant
  reply : Reply

/-- A turn as it was taken. -/
structure Taken where
  turn : Turn
  before : KeyCache
  result : Except FetchFault Snapshot
  after : KeyCache

/-- One refresh of an observed generation that may take its time. -/
def refreshOver (cache : KeyCache) (observed : Nat) (turn : Turn) :
    Except FetchFault Snapshot × KeyCache :=
  match cache.replaced? observed turn.granted with
  | some current => (.ok current, cache)
  | none => cache.refresh turn.answered turn.reply

/-- Turns taken in order to refresh one observed generation. -/
def turnsTaken (observed : Nat) (cache : KeyCache) : List Turn → List Taken
  | [] => []
  | turn :: turns =>
      let (result, after) := cache.refreshOver observed turn
      ⟨turn, cache, result, after⟩ :: turnsTaken observed after turns

theorem replaced?_generation (cache : KeyCache) (now : Instant) :
    cache.replaced? cache.generation now = none := by
  cases present : cache.snapshot <;> simp [replaced?, generation, present]

/-- A refresh that takes no time is `refreshAfter`. -/
theorem refreshAfter_eq_refreshOver :
    cache.refreshAfter observed now reply = cache.refreshOver observed ⟨now, now, reply⟩ := by
  unfold refreshOver
  cases replaced : cache.replaced? observed now with
  | some current => simp only [refreshAfter, replaced]
  | none => simp only [refresh, refreshAfter, replaced, replaced?_generation]

namespace Taken

/-- The turn fetches once, the fetch fails and the snapshot stays. -/
structure InVain (taken : Taken) : Prop where
  result : ∃ fault, taken.result = .error fault
  fetches : taken.after.fetches = taken.before.fetches + 1
  snapshot : taken.after.snapshot = taken.before.snapshot

/-- The turn fetches once, and the fetch brings the snapshot that it installs. -/
structure Brings (taken : Taken) (snapshot : Snapshot) : Prop where
  result : taken.result = .ok snapshot
  fetches : taken.after.fetches = taken.before.fetches + 1
  snapshot : taken.after.snapshot = some snapshot

/-- The turn returns a snapshot without a fetch. -/
structure Shares (taken : Taken) (snapshot : Snapshot) : Prop where
  result : taken.result = .ok snapshot
  unchanged : taken.after = taken.before

end Taken

/-- Every turn that finds the successor of the observed generation comes before its expiry. -/
def Timely (observed : Nat) (record : List Taken) : Prop :=
  ∀ taken ∈ record, ∀ snapshot, taken.before.snapshot = some snapshot →
    snapshot.generation = observed + 1 → taken.turn.granted < snapshot.window.expiry

/-- Turns go in vain until one brings the successor of the observed generation, and all after
that one share what it brought. -/
def Coalesced (observed : Nat) (record : List Taken) : Prop :=
  (∀ taken ∈ record, taken.InVain) ∨
    ∃ earlier first later snapshot, record = earlier ++ first :: later ∧
      (∀ taken ∈ earlier, taken.InVain) ∧
      first.Brings snapshot ∧ snapshot.generation = observed + 1 ∧
      ∀ taken ∈ later, taken.Shares snapshot

/-- A turn that comes before the expiry of a snapshot of another generation takes it. -/
theorem refreshOver_of_replaced {turn : Turn} (present : cache.snapshot = some snapshot)
    (other : snapshot.generation ≠ observed) (unexpired : turn.granted < snapshot.window.expiry) :
    cache.refreshOver observed turn = (.ok snapshot, cache) := by
  have usable : snapshot.standing turn.granted ≠ .stale := by
    have early : ¬ snapshot.window.expiry ≤ turn.granted := fun late => late unexpired
    simp only [Snapshot.standing, early, if_false]
    split <;> simp
  simp only [refreshOver, replaced?, present, other, usable, ne_eq, not_false_eq_true, and_self,
    if_true]

/-- Once the successor is installed, every timely turn shares it. -/
theorem shares_of_successor {turns : List Turn} (present : cache.snapshot = some snapshot)
    (successor : snapshot.generation = observed + 1)
    (timely : Timely observed (turnsTaken observed cache turns)) :
    ∀ taken ∈ turnsTaken observed cache turns, taken.Shares snapshot := by
  induction turns with
  | nil => exact fun _ among => absurd among List.not_mem_nil
  | cons turn turns inductionHypothesis =>
      have unexpired : turn.granted < snapshot.window.expiry :=
        timely _ List.mem_cons_self snapshot present successor
      have shared : cache.refreshOver observed turn = (.ok snapshot, cache) :=
        refreshOver_of_replaced present (by omega) unexpired
      simp only [turnsTaken, shared] at timely ⊢
      intro taken among
      rcases List.mem_cons.mp among with rfl | among
      · exact ⟨rfl, rfl⟩
      · exact inductionHypothesis
          (fun taken among => timely taken (List.mem_cons_of_mem _ among)) taken among

/-- Timely turns to refresh the generation at hand coalesce. -/
theorem coalesced_turnsTaken {turns : List Turn} (current : cache.generation = observed)
    (timely : Timely observed (turnsTaken observed cache turns)) :
    Coalesced observed (turnsTaken observed cache turns) := by
  induction turns generalizing cache with
  | nil => exact .inl fun _ among => absurd among List.not_mem_nil
  | cons turn turns inductionHypothesis =>
      have fetches : cache.refreshOver observed turn = cache.refresh turn.answered turn.reply := by
        simp only [refreshOver, ← current, replaced?_generation]
      rcases cache.refreshAfter_generation turn.answered turn.reply with
        ⟨fault, _, missed⟩ | ⟨keys, window, _, installed⟩
      · simp only [turnsTaken, fetches, refresh, missed] at timely ⊢
        have vain : Taken.InVain ⟨turn, cache, .error fault, cache.missed⟩ :=
          ⟨⟨fault, rfl⟩, rfl, rfl⟩
        -- The generation is still the observed one, so the other turns go on from here.
        have others : Coalesced observed (turnsTaken observed cache.missed turns) :=
          inductionHypothesis current
            (fun taken among => timely taken (List.mem_cons_of_mem _ among))
        rcases others with all | ⟨earlier, first, later, snapshot, shape, vains, rest⟩
        · exact .inl (List.forall_mem_cons.mpr ⟨vain, all⟩)
        · refine .inr ⟨_ :: earlier, first, later, snapshot, ?_,
            List.forall_mem_cons.mpr ⟨vain, vains⟩, rest⟩
          rw [shape, List.cons_append]
      · simp only [turnsTaken, fetches, refresh, installed] at timely ⊢
        have present : (cache.installed keys window).snapshot =
            some ⟨keys, window, cache.generation + 1⟩ := rfl
        have successor : cache.generation + 1 = observed + 1 := congrArg (· + 1) current
        have shared := shares_of_successor present successor
          (fun taken among => timely taken (List.mem_cons_of_mem _ among))
        exact .inr ⟨[], _, _, _, rfl, fun _ among => absurd among List.not_mem_nil,
          ⟨rfl, rfl, present⟩, successor, shared⟩

/-! ## Runs of any kind -/

/-- The generation that a stage wants replaced. -/
def Stage.observed? : Stage → Option Nat
  | .refreshing observed _ | .forcing observed => some observed
  | .done _ | .rereading => none

/-- Two caches hold the same snapshot and have counted the same fetches. -/
structure SameStock (left right : KeyCache) : Prop where
  snapshot : left.snapshot = right.snapshot
  fetches : left.fetches = right.fetches
  refreshes : left.refreshes = right.refreshes

theorem SameStock.refl (cache : KeyCache) : SameStock cache cache := ⟨rfl, rfl, rfl⟩

/-- The first step of a lookup observes the generation at hand. -/
theorem begin_observes (cache : KeyCache) (now : Instant) (keyId : String) :
    SameStock (cache.begin now keyId).2 cache ∧
      ∀ observed, (cache.begin now keyId).1.observed? = some observed →
        observed = cache.generation := by
  constructor
  · obtain ⟨_, _, begun⟩ := cache.begin_eq now keyId
    rw [begun]
    exact ⟨rfl, rfl, rfl⟩
  · unfold begin generation
    split
    · simp [Stage.observed?]
    · split
      · simp [Stage.observed?]
      · split
        · simp [Stage.observed?]
        · split <;> simp [Stage.observed?]

/-- The second step of a lookup refreshes what was observed, and fetches in no other case. -/
theorem resume_refreshes (cache : KeyCache) (stage : Stage) (now : Instant) (keyId : String)
    (reply : Reply) :
    SameStock (cache.resume stage now keyId reply).2
      (match stage.observed? with
        | some observed => (cache.refreshAfter observed now reply).2
        | none => cache) := by
  cases stage with
  | done result => exact .refl _
  | rereading =>
      simp only [resume, Stage.observed?]
      split <;> exact .refl _
  | refreshing observed fallback =>
      simp only [resume, Stage.observed?]
      split <;> rename_i refreshed <;> rw [refreshed]
      · split
        · exact ⟨found_snapshot, found_fetches, found_refreshes⟩
        · exact .refl _
      · split <;> exact .refl _
  | forcing observed =>
      simp only [resume, Stage.observed?]
      split <;> rename_i refreshed <;> rw [refreshed] <;> exact .refl _

/-- Either no fetch brought keys and the snapshot stays, or one did and its snapshot is of the
next generation. -/
inductive Advances (before after : KeyCache) : Prop where
  | kept (successes : after.successes = before.successes)
      (snapshot : after.snapshot = before.snapshot)
  | supplied {snapshot : Snapshot} (successes : after.successes = before.successes + 1)
      (installed : after.snapshot = some snapshot)
      (generation : snapshot.generation = before.generation + 1)

theorem Advances.of_sameStock {other : KeyCache} (advances : Advances before after)
    (same : SameStock other after) : Advances before other := by
  have successes : other.successes = after.successes := congrArg (List.count true) same.refreshes
  cases advances with
  | kept unchanged kept => exact .kept (successes.trans unchanged) (same.snapshot.trans kept)
  | supplied more installed generation =>
      exact .supplied (successes.trans more) (same.snapshot.trans installed) generation

theorem advances_refreshAfter (cache : KeyCache) (observed : Nat) (now : Instant)
    (reply : Reply) : Advances cache (cache.refreshAfter observed now reply).2 := by
  rcases cache.refreshAfter_cases observed now reply with
    ⟨_, _, _, _, refreshed⟩ | ⟨_, _, refreshed⟩ | ⟨keys, window, _, refreshed⟩
  · rw [refreshed]
    exact .kept rfl rfl
  · rw [refreshed]
    exact .kept (by simp [successes, missed]) rfl
  · rw [refreshed]
    exact .supplied (by simp [successes, installed]) rfl rfl

/-- Every action keeps the snapshot or replaces it by one of the next generation. -/
theorem advances_act (cache : KeyCache) (action : Action) : Advances cache (cache.act action) := by
  cases action with
  | begin now keyId => exact .of_sameStock (.kept rfl rfl) (cache.begin_observes now keyId).1
  | resume stage now keyId reply =>
      refine .of_sameStock ?_ (cache.resume_refreshes stage now keyId reply)
      cases stage.observed? with
      | none => exact .kept rfl rfl
      | some observed => exact advances_refreshAfter cache observed now reply
  | abandon => exact .kept rfl rfl
  | refresh now reply => exact advances_refreshAfter cache _ now reply
  | settle now reply =>
      simp only [act, settle]
      split
      · exact .kept rfl rfl
      · exact (advances_refreshAfter cache _ now reply).of_sameStock ⟨rfl, rfl, rfl⟩

/-- Over a run the generation grows by one for each fetch that brings keys. -/
theorem generation_performed (cache : KeyCache) (actions : List Action) :
    (cache.performed actions).generation + cache.successes =
      cache.generation + (cache.performed actions).successes := by
  induction actions generalizing cache with
  | nil => rfl
  | cons action actions inductionHypothesis =>
      have rest : (cache.performed (action :: actions)).generation + (cache.act action).successes =
          (cache.act action).generation + (cache.performed (action :: actions)).successes :=
        inductionHypothesis (cache.act action)
      cases cache.advances_act action with
      | kept successes snapshot =>
          have generation := generation_of_snapshot_eq snapshot
          omega
      | supplied successes installed next =>
          have generation := generation_of_snapshot installed
          omega

/-- Over a run a snapshot stays, or one of a greater generation is there in its place. -/
theorem snapshot_performed (present : cache.snapshot = some snapshot) :
    ∃ last, (cache.performed actions).snapshot = some last ∧
      (last = snapshot ∨ snapshot.generation < last.generation) := by
  induction actions generalizing cache snapshot with
  | nil => exact ⟨snapshot, present, .inl rfl⟩
  | cons action actions inductionHypothesis =>
      cases cache.advances_act action with
      | kept _ kept => exact inductionHypothesis (kept.trans present)
      | @supplied next _ installed generation =>
          obtain ⟨last, held, order⟩ := inductionHypothesis installed
          refine ⟨last, held, .inr ?_⟩
          rw [generation_of_snapshot present] at generation
          rcases order with rfl | order <;> omega

/-- Lookups that observe the same generation refresh it in turns. As long as the clock stays
before the expiry of its successor, every turn fetches once and in vain until one installs the
successor, and all after it return that successor without a fetch. Whatever is done to a cache,
its generation grows by one for each fetch that brings keys, and a snapshot is replaced only by
one of a greater generation. -/
theorem refreshes_coalesce :
    (∀ (cache : KeyCache) (now : Instant) (keyId : String) (observed : Nat),
        (cache.begin now keyId).1.observed? = some observed → observed = cache.generation) ∧
      (∀ (cache : KeyCache) (stage : Stage) (observed : Nat) (now : Instant) (keyId : String)
          (reply : Reply), stage.observed? = some observed →
        SameStock (cache.resume stage now keyId reply).2
          (cache.refreshOver observed ⟨now, now, reply⟩).2) ∧
      (∀ (cache : KeyCache) (turns : List Turn),
        Timely cache.generation (turnsTaken cache.generation cache turns) →
          Coalesced cache.generation (turnsTaken cache.generation cache turns)) ∧
      ∀ (cache : KeyCache) (actions : List Action),
        (cache.performed actions).generation + cache.successes =
            cache.generation + (cache.performed actions).successes ∧
          ∀ snapshot, cache.snapshot = some snapshot →
            ∃ last, (cache.performed actions).snapshot = some last ∧
              (last = snapshot ∨ snapshot.generation < last.generation) := by
  refine ⟨fun cache now keyId => (cache.begin_observes now keyId).2, ?_,
    fun cache turns => coalesced_turnsTaken rfl,
    fun cache actions => ⟨cache.generation_performed actions, fun _ => snapshot_performed⟩⟩
  intro cache stage observed now keyId reply observes
  have refreshes := cache.resume_refreshes stage now keyId reply
  simpa only [observes, refreshAfter_eq_refreshOver] using refreshes

namespace Queue

/-- Three lookups on a cold cache; only the second finds the endpoint there. -/
def turns : List Turn :=
  [⟨Outage.fetched, Outage.fetched, .unreachable⟩,
    ⟨Outage.fetched, Outage.fetched, .publishing [] [("key-a", Outage.key)]⟩,
    ⟨Outage.fetched, Outage.fetched, .unreachable⟩]

theorem middle_valid : Instant.Valid 1700000450 0 := by decide

/-- The set that the second one brings. -/
def brought : Snapshot :=
  ⟨.listed [("key-a", Outage.key)], ⟨Outage.expired, ⟨1700000450, 0, middle_valid⟩⟩, 1⟩

/-- The cache that holds it after two fetches. -/
def stocked : KeyCache := (cold .standard).missed.installed brought.keys brought.window

theorem turnsTaken_turns : turnsTaken 0 (cold .standard) turns =
    [⟨⟨Outage.fetched, Outage.fetched, .unreachable⟩, cold .standard, .error .transport,
        (cold .standard).missed⟩,
      ⟨⟨Outage.fetched, Outage.fetched, .publishing [] [("key-a", Outage.key)]⟩,
        (cold .standard).missed, .ok brought, stocked⟩,
      ⟨⟨Outage.fetched, Outage.fetched, .unreachable⟩, stocked, .ok brought, stocked⟩] := by
  have missed : (cold .standard).refreshOver 0 ⟨Outage.fetched, Outage.fetched, .unreachable⟩ =
      (.error .transport, (cold .standard).missed) := rfl
  have brings : evaluate (cold .standard).missed.settings Outage.fetched
      (.publishing [] [("key-a", Outage.key)]) = .ok (brought.keys, brought.window) :=
    evaluate_publishing rfl (by decide) (by decide)
  have fetched : (cold .standard).missed.refreshOver 0
      ⟨Outage.fetched, Outage.fetched, .publishing [] [("key-a", Outage.key)]⟩ =
        (.ok brought, stocked) := by
    rw [← refreshAfter_eq_refreshOver, refreshAfter, brings]
    rfl
  have shared : stocked.refreshOver 0 ⟨Outage.fetched, Outage.fetched, .unreachable⟩ =
      (.ok brought, stocked) :=
    refreshOver_of_replaced rfl (by decide) (by decide)
  simp only [turns, turnsTaken, missed, fetched, shared]

end Queue

/-- A lookup that comes after the one whose fetch brought keys shares them, although the
endpoint has gone again. -/
theorem last_turn_shares :
    Timely 0 (turnsTaken 0 (cold .standard) Queue.turns) ∧
      ∃ earlier first later snapshot,
        turnsTaken 0 (cold .standard) Queue.turns = earlier ++ first :: later ∧
          (∀ taken ∈ earlier, taken.InVain) ∧ first.Brings snapshot ∧ snapshot.generation = 1 ∧
          ∀ taken ∈ later, taken.Shares snapshot := by
  have timely : Timely 0 (turnsTaken 0 (cold .standard) Queue.turns) := by
    rw [Queue.turnsTaken_turns]
    intro taken among snapshot present _
    simp only [List.mem_cons, List.not_mem_nil, or_false] at among
    rcases among with rfl | rfl | rfl <;> cases present
    decide
  refine ⟨timely, ?_⟩
  rcases refreshes_coalesce.2.2.1 (cold .standard) Queue.turns timely with all | shared
  · rw [show (cold .standard).generation = 0 from rfl, Queue.turnsTaken_turns] at all
    obtain ⟨fault, failed⟩ := (all _ (List.mem_cons_of_mem _ List.mem_cons_self)).result
    cases failed
  · exact shared

end Admission.KeyCache
