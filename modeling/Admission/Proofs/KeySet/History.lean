import Admission.Proofs.KeySet.Lookup
import Admission.Proofs.KeySet.Publication

/-!
# Histories of a key cache

A history is a sequence of lookups, refreshes and ends of background refreshes,
each with an instant and a reply of its own; the clock may go either way. The law
that carries it is `Step.snapshot_or_success`: a snapshot is replaced only by a
fetch that brought keys, so nothing but such a fetch changes what is served.
-/

namespace Admission.KeyCache

/-- What happens to a key cache. -/
inductive Event where
  /-- A key is looked up, with the outcome. -/
  | lookup (keyId : String) (result : Except KeyFault RsaKey)
  /-- The keys are refreshed on demand. -/
  | refresh
  /-- The refresh in the background, if there is one, comes to its end. -/
  | settle

/-- The effect of one event. -/
inductive Step : KeyCache → Event → KeyCache → Prop where
  | lookup {cache asked answered keyId reply} :
      Step cache (.lookup keyId (cache.lookup asked answered keyId reply).1)
        (cache.lookup asked answered keyId reply).2
  | refresh {cache now reply} : Step cache .refresh (cache.refresh now reply).2
  | settle {cache now reply} : Step cache .settle (cache.settle now reply)

/-- The effect of events one after the other. -/
inductive Steps : KeyCache → List Event → KeyCache → Prop where
  | refl {cache} : Steps cache [] cache
  | step {start event next events final} (transition : Step start event next)
      (rest : Steps next events final) : Steps start (event :: events) final

/-- The number of refreshes that brought keys. -/
def successes (cache : KeyCache) : Nat := cache.refreshes.count true

variable {start next final : KeyCache} {event : Event} {events : List Event} {keyId : String}
  {result : Except KeyFault RsaKey}

/-- From one cache to another either nothing was fetched with success and the snapshot
is the same, or one fetch brought keys. -/
def Progress (before after : KeyCache) : Prop :=
  after.successes = before.successes ∧ after.snapshot = before.snapshot ∨
    after.successes = before.successes + 1

theorem Progress.le (progress : Progress start next) : start.successes ≤ next.successes := by
  rcases progress with ⟨same, _⟩ | more <;> omega

theorem progress_missed (cache : KeyCache) : Progress cache cache.missed :=
  .inl ⟨by simp [successes, missed], rfl⟩

theorem progress_installed (cache : KeyCache) (keys : KeySet) (window : Freshness.Window) :
    Progress cache (cache.installed keys window) :=
  .inr (by simp [successes, installed])

/-- A refresh of any generation makes progress. -/
theorem progress_refreshAfter (cache : KeyCache) (observed : Nat) (now : Instant) (reply : Reply) :
    Progress cache (cache.refreshAfter observed now reply).2 := by
  rcases cache.refreshAfter_cases observed now reply with
    ⟨_, _, _, _, refreshed⟩ | ⟨_, _, refreshed⟩ | ⟨_, _, _, refreshed⟩
  · rw [refreshed]
    exact .inl ⟨rfl, rfl⟩
  · rw [refreshed]
    exact progress_missed cache
  · rw [refreshed]
    exact progress_installed cache _ _

/-- A lookup makes progress. -/
theorem Course.progress {cache after : KeyCache} {asked answered : Instant} {reply : Reply}
    (course : Course cache asked answered keyId reply result after) : Progress cache after := by
  cases course with
  | held => exact .inl ⟨by simp [successes], by simp⟩
  | renewed => exact .inr (by simp [successes, installed])
  | unmatched => exact progress_installed cache _ _
  | fallback => exact progress_missed cache
  | unavailable => exact progress_missed cache
  | forced => exact progress_installed (cache.claimed asked) _ _
  | forcedInVain => exact progress_missed (cache.claimed asked)
  | limited => exact .inl ⟨rfl, rfl⟩

namespace Step

theorem of_lookup {asked answered : Instant} {reply : Reply}
    (answers : start.lookup asked answered keyId reply = (result, next)) :
    Step start (.lookup keyId result) next := by
  have transition : Step start (.lookup keyId (start.lookup asked answered keyId reply).1)
      (start.lookup asked answered keyId reply).2 := .lookup
  rwa [answers] at transition

/-- An event leaves the snapshot alone unless it is a fetch that brought keys. -/
theorem snapshot_or_success (transition : Step start event next) : Progress start next := by
  cases transition with
  | lookup => exact (lookup_course ..).progress
  | refresh => exact progress_refreshAfter ..
  | settle =>
      unfold KeyCache.settle
      split
      · exact .inl ⟨rfl, rfl⟩
      · exact progress_refreshAfter start _ _ _

/-- A lookup serves what the snapshot after it holds. -/
theorem serves {key : RsaKey} (transition : Step start (.lookup keyId result) next) :
    result = .ok key ↔ next.Holds keyId key := by
  generalize same : Event.lookup keyId result = event at transition
  cases transition with
  | lookup =>
      cases same
      exact (lookup_course ..).eq_ok_iff
  | refresh => cases same
  | settle => cases same

end Step

namespace Steps

/-- Successes are never taken back. -/
theorem successes_le (steps : Steps start events final) : start.successes ≤ final.successes := by
  induction steps with
  | refl => exact Nat.le_refl _
  | step transition _ inductionHypothesis =>
      exact Nat.le_trans transition.snapshot_or_success.le inductionHypothesis

/-- Without a fetch that brought keys the snapshot stays, and every lookup serves what
it holds. -/
theorem snapshot_eq (steps : Steps start events final)
    (fruitless : final.successes = start.successes) :
    final.snapshot = start.snapshot ∧ ∀ keyId result, Event.lookup keyId result ∈ events →
      ∀ key, result = .ok key ↔ start.Holds keyId key := by
  induction steps with
  | refl => exact ⟨rfl, fun _ _ member => absurd member List.not_mem_nil⟩
  | @step start event next events final transition rest inductionHypothesis =>
      have later := rest.successes_le
      rcases transition.snapshot_or_success with ⟨same, snapshot⟩ | more
      · obtain ⟨stays, serves⟩ := inductionHypothesis (by omega)
        have holds : ∀ keyId key, next.Holds keyId key ↔ start.Holds keyId key := by
          intro keyId key
          rw [Holds, Holds, snapshot]
        refine ⟨stays.trans snapshot, fun keyId result member key => ?_⟩
        rcases List.mem_cons.mp member with rfl | member
        · rw [transition.serves, holds]
        · rw [serves keyId result member key, holds]
      · omega

end Steps

/-- A lookup serves exactly what the snapshot after it holds. It reports an unknown key
exactly when that snapshot lacks the key and no fetch failed, and in every other case
the fault of its fetch, of which it sends one at most; a fetch that fails leaves the
snapshot as it was. Hence, as long as no fetch brings keys, a snapshot stays and serves
what it holds, and without a snapshot nothing is served. -/
theorem lookups_agree_with_snapshot :
    (∀ (cache : KeyCache) (now : Instant) (keyId : String) (reply : Reply),
        (cache.key now keyId reply).result = (cache.lookup now now keyId reply).1 ∧
          (cache.key now keyId reply).cache = (cache.lookup now now keyId reply).2) ∧
      (∀ (cache after : KeyCache) (asked answered : Instant) (keyId : String) (reply : Reply)
          (result : Except KeyFault RsaKey),
        cache.lookup asked answered keyId reply = (result, after) →
          (∀ key, result = .ok key ↔ after.Holds keyId key) ∧
          (result = .error (.keyNotFound keyId) ↔
            after.Lacks keyId ∧ ∀ fault, ¬ FetchFails cache after answered reply fault) ∧
          ((∃ key, result = .ok key) ∨ result = .error (.keyNotFound keyId) ∨
            ∃ fault, result = .error (.fetchFailed fault) ∧
              FetchFails cache after answered reply fault) ∧
          (∀ fault, FetchFails cache after answered reply fault →
            after.snapshot = cache.snapshot) ∧
          cache.fetches ≤ after.fetches ∧ after.fetches ≤ cache.fetches + 1) ∧
      (∀ (start final : KeyCache) (events : List Event), Steps start events final →
        final.successes = start.successes →
          final.snapshot = start.snapshot ∧ ∀ keyId result, Event.lookup keyId result ∈ events →
            ∀ key, result = .ok key ↔ start.Holds keyId key) ∧
      ∀ (settings : Settings) (final : KeyCache) (events : List Event),
        Steps (cold settings) events final → final.successes = 0 →
          ∀ keyId key, Event.lookup keyId (.ok key) ∉ events := by
  refine ⟨fun _ _ _ _ => key_eq_lookup, ?_, fun _ _ _ steps => steps.snapshot_eq, ?_⟩
  · intro cache after asked answered keyId reply result answers
    have course := cache.lookup_course asked answered keyId reply
    rw [answers] at course
    refine ⟨fun _ => course.eq_ok_iff, course.eq_keyNotFound_iff, ?_,
      fun _ => course.snapshot_eq_of_fetchFails, course.fetches_le⟩
    rcases course.error_cases with served | ⟨unknown, _⟩ | failed
    · exact .inl served
    · exact .inr (.inl unknown)
    · exact .inr (.inr failed)
  · intro settings final events steps none keyId key member
    obtain ⟨_, absent, _⟩ := ((steps.snapshot_eq none).2 keyId _ member key).mp rfl
    cases absent

namespace Outage

/-- A key that an endpoint publishes. -/
def key : RsaKey := ⟨[35], [3]⟩

theorem fetched_valid : Instant.Valid 1700000000 0 := by decide

/-- When the key is fetched. -/
def fetched : Instant := ⟨1700000000, 0, fetched_valid⟩

/-- When its snapshot has become stale. -/
def expired : Instant := ⟨1700000900, 0, by decide⟩

/-- The cache with the snapshot. -/
def stocked : KeyCache where
  settings := .standard
  snapshot := some ⟨⟨[("key-a", key)]⟩, ⟨expired, ⟨1700000450, 0, by decide⟩⟩, 1⟩
  lastForced := none
  fetches := 1
  refreshes := [true]
  background := none

theorem lookup_fetched :
    (cold .standard).lookup fetched fetched "key-a" (.publishing [] [("key-a", key)]) =
      (.ok key, stocked) := by
  have brings : evaluate .standard fetched (.publishing [] [("key-a", key)]) =
      .ok (KeySet.listed [("key-a", key)], ⟨expired, ⟨1700000450, 0, by decide⟩⟩) :=
    evaluate_publishing rfl (by decide) (by decide)
  have known : (KeySet.listed [("key-a", key)]).find? "key-a" = some key := rfl
  have due : (cold .standard).Due fetched := due_of_none rfl
  exact lookup_of_brings due brings known

end Outage

/-- A key that was fetched once is served while the endpoint cannot be reached, an
identifier that was not brings the fault of the fetch, and a cache that never fetched
serves nothing. -/
theorem outage_agrees_with_snapshot :
    Steps (cold .standard)
        [.lookup "key-a" (.ok Outage.key), .lookup "key-a" (.ok Outage.key),
          .lookup "key-b" (.error (.fetchFailed .transport))]
        Outage.stocked.missed.missed ∧
      Outage.stocked.standing Outage.expired = .stale ∧
      Outage.stocked.missed.Holds "key-a" Outage.key ∧
      Outage.stocked.missed.missed.snapshot = Outage.stocked.snapshot ∧
      ((cold .standard).key Outage.expired "key-a" .unreachable).result ≠ .ok Outage.key := by
  obtain ⟨instant, single, run, nothing⟩ := lookups_agree_with_snapshot
  have first : Outage.stocked.lookup Outage.expired Outage.expired "key-a" .unreachable =
      (.ok Outage.key, Outage.stocked.missed) := rfl
  have second : Outage.stocked.missed.lookup Outage.expired Outage.expired "key-b" .unreachable =
      (.error (.fetchFailed .transport), Outage.stocked.missed.missed) := rfl
  have steps : Steps Outage.stocked
      [.lookup "key-a" (.ok Outage.key), .lookup "key-b" (.error (.fetchFailed .transport))]
      Outage.stocked.missed.missed :=
    .step (.of_lookup first) (.step (.of_lookup second) .refl)
  have holds : Outage.stocked.missed.Holds "key-a" Outage.key :=
    ((single _ _ _ _ _ _ _ first).1 _).mp rfl
  obtain ⟨stays, _⟩ := run _ _ _ steps rfl
  refine ⟨.step (.of_lookup Outage.lookup_fetched) steps, rfl, holds, stays, fun served => ?_⟩
  rw [(instant _ _ _ _).1] at served
  exact nothing .standard _ _ (.step (.of_lookup (Prod.ext served rfl)) .refl) rfl _ _
    List.mem_cons_self

end Admission.KeyCache
