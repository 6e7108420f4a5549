import Admission.Proofs.KeySet.Outage
import Admission.Proofs.KeySet.Window

/-!
# Installed snapshots

Whatever is done to a cache, each snapshot that it comes to hold was brought by one fetch,
and is the next generation after the one before it. `act_cases` says what one action does to
the snapshot; what is known of all snapshots of a history follows by induction over its
actions. A stage may name any generation as the one observed, so that it is left open which
of the actions fetch.
-/

namespace Admission

/-- A usable entry has an identifier. -/
theorem Jwk.usable?_named {value : Json} {keyId : String} {key : RsaKey}
    (usable : usable? value = some (keyId, key)) : keyId ≠ "" := by
  simp only [usable?, Option.bind_eq_bind, Option.bind_eq_some_iff] at usable
  obtain ⟨_, _, _, _, named, _, usable⟩ := usable
  split at usable
  · cases usable
  · rename_i nonempty
    simp only [Option.bind_eq_some_iff, Option.pure_def, Option.some.injEq, Prod.mk.injEq]
      at usable
    obtain ⟨_, _, rfl, rfl⟩ := usable
    simpa using nonempty

/-- No key of a set has an empty identifier. -/
def KeySet.Named (set : KeySet) : Prop := ∀ entry ∈ set.keys, entry.1 ≠ ""

theorem KeySet.Named.insert {set : KeySet} {keyId : String} {key : RsaKey} (named : set.Named)
    (nonempty : keyId ≠ "") : (set.insert keyId key).Named := by
  intro entry among
  rcases List.mem_cons.mp among with rfl | among
  · exact nonempty
  · exact named entry (List.mem_filter.mp among).1

/-- Of listed entries only keys with identifiers are taken. -/
theorem KeySet.ofEntries_named (entries : List Json) : (ofEntries entries).Named := by
  refine List.foldlRecOn entries _ (fun _ among => absurd among List.not_mem_nil) ?_
  intro set named value _
  cases usable : Jwk.usable? value with
  | none => simpa only [usable] using named
  | some entry => simpa only [usable] using named.insert (Jwk.usable?_named usable)

namespace KeyCache

/-! ## Actions -/

/-- What is done to a cache. Where it sends a fetch, the instant is the one at which the
fetch reads the clock. -/
inductive Action where
  /-- A lookup takes its first step. -/
  | begin (now : Instant) (keyId : String)
  /-- A lookup takes its second step. -/
  | resume (stage : Stage) (now : Instant) (keyId : String) (reply : Reply)
  /-- A lookup is given up while its fetch is under way. -/
  | abandon
  /-- The keys are refreshed on demand. -/
  | refresh (now : Instant) (reply : Reply)
  /-- The refresh in the background comes to its end. -/
  | settle (now : Instant) (reply : Reply)

/-- The instant at which a fetch of an action reads the clock. -/
def Action.fetched? : Action → Option Instant
  | .resume _ now _ _ | .refresh now _ | .settle now _ => some now
  | .begin _ _ | .abandon => none

/-- The cache after an action. -/
def act (cache : KeyCache) : Action → KeyCache
  | .begin now keyId => (cache.begin now keyId).2
  | .resume stage now keyId reply => (cache.resume stage now keyId reply).2
  | .abandon => cache.sent
  | .refresh now reply => (cache.refresh now reply).2
  | .settle now reply => cache.settle now reply

/-- The cache after actions one after the other. -/
def performed (cache : KeyCache) (actions : List Action) : KeyCache := actions.foldl act cache

/-- A snapshot as it was installed. -/
structure Installation where
  /-- When its fetch read the clock. -/
  fetched : Instant
  snapshot : Snapshot
  /-- How many fetches had been sent by then. -/
  fetches : Nat
deriving DecidableEq, Repr

/-- The snapshot that an action installs: one that the cache did not hold before. -/
def installation? (cache : KeyCache) (action : Action) : Option Installation := do
  let fetched ← action.fetched?
  let snapshot ← (cache.act action).snapshot
  if cache.snapshot = some snapshot then none
  else some ⟨fetched, snapshot, (cache.act action).fetches⟩

/-- The snapshots that actions install, in order. -/
def installations (cache : KeyCache) : List Action → List Installation
  | [] => []
  | action :: actions =>
      (cache.installation? action).toList ++ (cache.act action).installations actions

variable {cache before after : KeyCache} {settings : Settings} {action : Action}
  {actions : List Action} {fetched now : Instant} {reply : Reply} {entry : Installation}

/-! ## What one action does -/

/-- The snapshot stays as it was, or a fetch that read the clock at an instant brought the
next one. -/
inductive Effect (before after : KeyCache) (fetched : Instant) : Prop where
  | kept (same : after.snapshot = before.snapshot) (sent : before.fetches ≤ after.fetches)
  | supplied {reply : Reply} {keys : KeySet} {window : Freshness.Window}
      (brings : evaluate before.settings fetched reply = .ok (keys, window))
      (installs : after.snapshot = some ⟨keys, window, before.generation + 1⟩)
      (sent : after.fetches = before.fetches + 1)

/-- The effect is one on snapshot and fetches alone. -/
theorem Effect.congr {other : KeyCache} (effect : Effect before after fetched)
    (sameSnapshot : other.snapshot = after.snapshot) (sameFetches : other.fetches = after.fetches) :
    Effect before other fetched := by
  cases effect with
  | kept same sent => exact .kept (sameSnapshot.trans same) (sameFetches ▸ sent)
  | supplied brings installs sent =>
      exact .supplied brings (sameSnapshot.trans installs) (sameFetches.trans sent)

theorem effect_refreshAfter (cache : KeyCache) (observed : Nat) (now : Instant) (reply : Reply) :
    Effect cache (cache.refreshAfter observed now reply).2 now := by
  rcases cache.refreshAfter_cases observed now reply with
    ⟨_, _, _, _, refreshed⟩ | ⟨_, _, refreshed⟩ | ⟨keys, window, brings, refreshed⟩
  · rw [refreshed]
    exact .kept rfl (Nat.le_refl _)
  · rw [refreshed]
    exact .kept rfl (Nat.le_succ _)
  · rw [refreshed]
    exact .supplied brings rfl rfl

theorem effect_resume (cache : KeyCache) (stage : Stage) (now : Instant) (keyId : String)
    (reply : Reply) : Effect cache (cache.resume stage now keyId reply).2 now := by
  cases stage with
  | done result => exact .kept rfl (Nat.le_refl _)
  | rereading =>
      simp only [resume]
      split <;> exact .kept rfl (Nat.le_refl _)
  | refreshing observed fallback =>
      have effect := effect_refreshAfter cache observed now reply
      simp only [resume]
      split <;> rename_i refreshed <;> rw [refreshed] at effect
      · split
        · exact effect.congr found_snapshot found_fetches
        · exact effect
      · split <;> exact effect
  | forcing observed =>
      have effect := effect_refreshAfter cache observed now reply
      simp only [resume]
      split <;> rename_i refreshed <;> rwa [refreshed] at effect

theorem effect_settle (cache : KeyCache) (now : Instant) (reply : Reply) :
    Effect cache (cache.settle now reply) now := by
  unfold settle
  split
  · exact .kept rfl (Nat.le_refl _)
  · exact (effect_refreshAfter cache _ now reply).congr rfl rfl

/-- An action that fetches at no instant keeps the snapshot, and any other has its effect. -/
theorem effect_act (cache : KeyCache) (action : Action) :
    (action.fetched? = none ∧ (cache.act action).snapshot = cache.snapshot ∧
        cache.fetches ≤ (cache.act action).fetches) ∨
      ∃ fetched, action.fetched? = some fetched ∧ Effect cache (cache.act action) fetched := by
  cases action with
  | begin now keyId =>
      obtain ⟨_, _, begun⟩ := cache.begin_eq now keyId
      rw [act, begun]
      exact .inl ⟨rfl, rfl, Nat.le_refl _⟩
  | abandon => exact .inl ⟨rfl, rfl, Nat.le_succ _⟩
  | resume stage now keyId reply => exact .inr ⟨now, rfl, cache.effect_resume stage now keyId reply⟩
  | refresh now reply => exact .inr ⟨now, rfl, cache.effect_refreshAfter _ now reply⟩
  | settle now reply => exact .inr ⟨now, rfl, cache.effect_settle now reply⟩

/-- An action installs nothing and keeps the snapshot, or it installs what its fetch brings
as the next generation. -/
theorem act_cases (cache : KeyCache) (action : Action) :
    (cache.installation? action = none ∧ (cache.act action).snapshot = cache.snapshot ∧
        cache.fetches ≤ (cache.act action).fetches) ∨
      ∃ fetched reply keys window, action.fetched? = some fetched ∧
        evaluate cache.settings fetched reply = .ok (keys, window) ∧
        cache.installation? action =
          some ⟨fetched, ⟨keys, window, cache.generation + 1⟩, cache.fetches + 1⟩ ∧
        (cache.act action).snapshot = some ⟨keys, window, cache.generation + 1⟩ ∧
        (cache.act action).fetches = cache.fetches + 1 := by
  have unchanged (same : (cache.act action).snapshot = cache.snapshot) :
      cache.installation? action = none := by
    cases read : action.fetched? <;> cases held : cache.snapshot <;>
      simp [installation?, read, same, held]
  rcases cache.effect_act action with ⟨_, same, sent⟩ | ⟨fetched, read, effect⟩
  · exact .inl ⟨unchanged same, same, sent⟩
  · cases effect with
    | kept same sent => exact .inl ⟨unchanged same, same, sent⟩
    | @supplied reply keys window brings installs sent =>
        -- The generation tells the new snapshot from the one before it.
        have new : cache.snapshot ≠ some ⟨keys, window, cache.generation + 1⟩ := by
          intro held
          have generation : cache.generation = cache.generation + 1 := by
            conv_lhs => rw [KeyCache.generation, held]
          omega
        refine .inr ⟨fetched, reply, keys, window, read, brings, ?_, installs, sent⟩
        simp [installation?, read, installs, sent, new]

theorem act_settings (cache : KeyCache) (action : Action) :
    (cache.act action).settings = cache.settings := by
  cases action with
  | begin now keyId =>
      obtain ⟨_, _, begun⟩ := cache.begin_eq now keyId
      rw [act, begun]
  | resume => exact sameForcing_resume.settings
  | abandon => rfl
  | refresh now reply => exact (sameForcing_refreshAfter ..).settings
  | settle => exact sameForcing_settle.settings

/-! ## What is known of installed snapshots -/

/-- An installed snapshot holds what a fetch at its instant brought: keys, all of them with
identifiers, and a window that begins at the fetch and ends by the greatest validity. -/
structure Installation.Sound (settings : Settings) (entry : Installation) : Prop where
  brought : ∃ reply, evaluate settings entry.fetched reply =
    .ok (entry.snapshot.keys, entry.snapshot.window)
  filled : entry.snapshot.keys.keys ≠ []
  named : entry.snapshot.keys.Named
  begins : entry.fetched ≤ entry.snapshot.window.prefetchAt
  ordered : entry.snapshot.window.prefetchAt ≤ entry.snapshot.window.expiry
  capped : ∀ latest, entry.fetched.add? settings.maxLifetime.span = some latest →
    entry.snapshot.window.expiry ≤ latest
  counted : entry.snapshot.generation ≤ entry.fetches

/-- What a fetch brings outside leap seconds is sound, under a generation that the fetches
have reached. -/
theorem sound_of_brings {keys : KeySet} {window : Freshness.Window} {generation fetches : Nat}
    (brings : evaluate settings fetched reply = .ok (keys, window))
    (regular : fetched.isLeap = false) (counted : generation ≤ fetches) :
    Installation.Sound settings ⟨fetched, ⟨keys, window, generation⟩, fetches⟩ := by
  obtain ⟨headers, body, _, granted, read, filled⟩ := evaluate_eq_ok_iff.mp brings
  obtain ⟨begins, ordered, capped⟩ := Freshness.responseWindow?_bounds regular granted
  have named : keys.Named := by
    simp only [KeySet.ofDocument?, Option.bind_eq_bind, Option.bind_eq_some_iff, Option.pure_def,
      Option.some.injEq] at read
    obtain ⟨_, _, entries, _, rfl⟩ := read
    exact KeySet.ofEntries_named entries
  exact ⟨⟨reply, brings⟩, filled, named, begins, ordered, capped, counted⟩

theorem generation_of_snapshot_eq (same : after.snapshot = before.snapshot) :
    after.generation = before.generation := by
  rw [generation, generation, same]

theorem generation_of_snapshot {snapshot : Snapshot} (present : cache.snapshot = some snapshot) :
    cache.generation = snapshot.generation := by
  rw [generation, present]

/-- The snapshots that actions install are sound, each of a later generation than the
snapshot at the start and than those before it. -/
theorem installations_sound (configured : cache.settings = settings)
    (counted : cache.generation ≤ cache.fetches)
    (regular : ∀ action ∈ actions, ∀ fetched ∈ action.fetched?, fetched.isLeap = false) :
    (∀ entry ∈ cache.installations actions,
        entry.Sound settings ∧ cache.generation < entry.snapshot.generation) ∧
      (cache.installations actions).Pairwise fun earlier later =>
        earlier.snapshot.generation < later.snapshot.generation := by
  induction actions generalizing cache with
  | nil => exact ⟨fun _ among => absurd among List.not_mem_nil, .nil⟩
  | cons action actions inductionHypothesis =>
      have configuredNext := (cache.act_settings action).trans configured
      have regularRest : ∀ other ∈ actions, ∀ fetched ∈ other.fetched?, fetched.isLeap = false :=
        fun other among => regular other (List.mem_cons_of_mem _ among)
      rcases cache.act_cases action with
        ⟨none, same, sent⟩ | ⟨fetched, reply, keys, window, read, brings, installs, present, sent⟩
      · have generation := generation_of_snapshot_eq same
        have rest := inductionHypothesis configuredNext (by omega) regularRest
        rw [installations, none, Option.toList_none, List.nil_append, ← generation]
        exact rest
      · have generation := generation_of_snapshot present
        simp only at generation
        obtain ⟨sound, ascending⟩ := inductionHypothesis configuredNext (by omega) regularRest
        rw [configured] at brings
        have first := sound_of_brings brings (regular action List.mem_cons_self fetched read)
          (Nat.succ_le_succ counted)
        rw [installations, installs, Option.toList_some, List.singleton_append]
        constructor
        · intro entry among
          rcases List.mem_cons.mp among with rfl | among
          · exact ⟨first, Nat.lt_succ_self _⟩
          · obtain ⟨later, above⟩ := sound entry among
            exact ⟨later, by omega⟩
        · refine List.pairwise_cons.mpr ⟨fun entry among => ?_, ascending⟩
          have above := (sound entry among).2
          simp only
          omega

/-- A cache holds the snapshot that was installed last, or else the one at the start. -/
theorem performed_snapshot (cache : KeyCache) (actions : List Action) :
    (cache.performed actions).snapshot =
      ((cache.installations actions).getLast?.map (·.snapshot)).or cache.snapshot := by
  induction actions generalizing cache with
  | nil => rfl
  | cons action actions inductionHypothesis =>
      rw [performed, List.foldl_cons]
      refine (inductionHypothesis _).trans ?_
      rcases cache.act_cases action with
        ⟨none, same, _⟩ | ⟨_, _, _, _, _, _, installs, present, _⟩
      · rw [installations, none, same]
        rfl
      · rw [installations, installs, present, Option.toList_some, List.singleton_append,
          List.getLast?_cons]
        cases ((cache.act action).installations actions).getLast? <;> rfl

end KeyCache

/-! ## Standings of one snapshot -/

/-- The order in which a snapshot goes through its standings, behind that of no snapshot. -/
def Standing.rank : Standing → Nat
  | .cold => 0
  | .fresh => 1
  | .prefetch => 2
  | .stale => 3

/-- As the clock advances a snapshot goes from fresh over to be fetched ahead to stale. -/
theorem Snapshot.standing_mono {earlier later : Instant} (snapshot : Snapshot)
    (order : earlier ≤ later) :
    1 ≤ (snapshot.standing earlier).rank ∧
      (snapshot.standing earlier).rank ≤ (snapshot.standing later).rank := by
  unfold standing
  by_cases expired : snapshot.window.expiry ≤ earlier
  · simp [expired, expired.trans order, Standing.rank]
  · by_cases due : snapshot.window.prefetchAt ≤ earlier
    · simp only [expired, if_false, due, if_true, due.trans order]
      split <;> simp [Standing.rank]
    · simp only [expired, if_false, due]
      split
      · simp [Standing.rank]
      · split <;> simp [Standing.rank]

namespace KeyCache

/-- Whatever is done to a cache outside leap seconds, the snapshots that it comes to hold are
sound and of ascending generations, and the last of them is the one it holds; and as the
clock advances no snapshot goes back to an earlier standing. -/
theorem installed_snapshots_sound (settings : Settings) (actions : List Action)
    (regular : ∀ action ∈ actions, ∀ fetched ∈ action.fetched?, fetched.isLeap = false) :
    (∀ entry ∈ (cold settings).installations actions, entry.Sound settings) ∧
      ((cold settings).installations actions).Pairwise (fun earlier later =>
        earlier.snapshot.generation < later.snapshot.generation) ∧
      ((cold settings).performed actions).snapshot =
        ((cold settings).installations actions).getLast?.map (·.snapshot) ∧
      ∀ (snapshot : Snapshot) (earlier later : Instant), earlier ≤ later →
        1 ≤ (snapshot.standing earlier).rank ∧
          (snapshot.standing earlier).rank ≤ (snapshot.standing later).rank := by
  have configured : (cold settings).settings = settings := rfl
  have counted : (cold settings).generation ≤ (cold settings).fetches := Nat.le_refl _
  obtain ⟨sound, ascending⟩ := installations_sound configured counted regular
  refine ⟨fun entry among => (sound entry among).1, ascending, ?_,
    fun snapshot _ _ => snapshot.standing_mono⟩
  rw [performed_snapshot]
  exact Option.or_none

namespace Oversized

/-- Caching headers that grant a validity beyond the last instant. -/
def headers : List Header := [⟨"cache-control", Bytes.ofText "max-age=9223372036854775807"⟩]

/-- When the keys are fetched again. -/
def again : Instant := ⟨1700086400, 0, by decide⟩

/-- A lookup that fetches keys under these headers, a refresh that fails, and one that brings
other keys. -/
def actions : List Action :=
  [.begin Outage.fetched "key-a",
    .resume (.refreshing 0 none) Outage.fetched "key-a"
      (.publishing headers [("key-a", Outage.key)]),
    .refresh again .unreachable, .refresh again (.publishing [] [("key-b", Outage.key)])]

/-- The snapshot of the lookup expires by the greatest validity. -/
def first : Installation where
  fetched := Outage.fetched
  snapshot := ⟨⟨[("key-a", Outage.key)]⟩, ⟨again, ⟨1700043200, 0, by decide⟩⟩, 1⟩
  fetches := 1

/-- The snapshot of the second refresh is the second one, though it took a third fetch. -/
def second : Installation where
  fetched := again
  snapshot := ⟨⟨[("key-b", Outage.key)]⟩,
    ⟨⟨1700087300, 0, by decide⟩, ⟨1700086850, 0, by decide⟩⟩, 2⟩
  fetches := 3

theorem installations_actions : (cold .standard).installations actions = [first, second] := by
  decide +kernel

end Oversized

/-- A validity beyond the last instant is cut to a day, and a fetch that fails in between
leaves a gap in the fetches but not in the generations. -/
theorem oversized_snapshots_sound :
    (cold .standard).installations Oversized.actions = [Oversized.first, Oversized.second] ∧
      Oversized.first.Sound .standard ∧ Oversized.second.Sound .standard ∧
      Oversized.first.snapshot.generation < Oversized.second.snapshot.generation ∧
      (Oversized.first.snapshot.standing Oversized.again).rank = 3 := by
  have regular : ∀ action ∈ Oversized.actions, ∀ fetched ∈ action.fetched?,
      fetched.isLeap = false := by
    decide
  obtain ⟨sound, ascending, _⟩ := installed_snapshots_sound .standard Oversized.actions regular
  rw [Oversized.installations_actions] at sound ascending
  exact ⟨Oversized.installations_actions, sound _ (by simp), sound _ (by simp),
    (List.pairwise_cons.mp ascending).1 _ (by simp), rfl⟩

end KeyCache
end Admission
