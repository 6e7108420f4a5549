import Admission.Proofs.Secret.History

/-!
# Overlapping lookups

A lookup reads the cache, waits for its source and stores what it was given. Other operations
come between these steps, evictions among them. A lookup that has been given a secret and has not
stored it yet does so after an eviction as well, and what was evicted is remembered again. While
no lookup is at this point, an eviction takes effect on all that begin after it.
-/

namespace Admission.SecretCache

/-- How far a lookup has come. -/
inductive Progress where
  /-- The source has been asked. -/
  | asking (name : String)
  /-- The source has answered, and the answer has not been stored. -/
  | answered (name : String) (accepted : Except SecretFault Secret)
  | over (name : String) (result : Except SecretFault Secret)

/-- What a lookup has been given, with its name. -/
def Progress.outcome? : Progress → Option (String × Except SecretFault Secret)
  | .asking _ => none
  | .answered name accepted => some (name, accepted)
  | .over name result => some (name, result)

/-- The lookup has been given a secret of the name and has not stored it. -/
def Progress.Holds (progress : Progress) (name : String) : Prop :=
  ∃ secret, progress = .answered name (.ok secret)

/-- A cache and its lookups, in the order in which they began. -/
structure Traffic where
  cache : SecretCache
  lookups : List Progress

/-- One step of some lookup, or an operation of one step. -/
inductive Move where
  | begin (name : String)
  /-- The source of a lookup answers. -/
  | answer (lookup : Nat) (source : SecretSource)
  /-- A lookup stores what it was given and is over. -/
  | finish (lookup : Nat)
  | evict (name : String)
  | clear

namespace Traffic

/-- No lookups of a cache that remembers nothing. -/
def start : Traffic := ⟨.empty, []⟩

/-- A lookup after its first step: over where the secret is remembered, else its source has been
asked. -/
def begun (cache : SecretCache) (name : String) : Progress :=
  match cache.cached? name with
  | some secret => .over name (.ok secret)
  | none => .asking name

/-- One move, with what a source gives in it. A step that a lookup cannot take does nothing. -/
def step (timeout : Duration) (traffic : Traffic) :
    Move → List (String × Except SecretFault Secret) × Traffic
  | .begin name => ([], { traffic with lookups := traffic.lookups ++ [begun traffic.cache name] })
  | .answer lookup source =>
      match traffic.lookups[lookup]? with
      | some (.asking name) =>
          let accepted := accept name timeout source.delay (source.answer name)
          ([(name, accepted)],
            { traffic with lookups := traffic.lookups.set lookup (.answered name accepted) })
      | _ => ([], traffic)
  | .finish lookup =>
      match traffic.lookups[lookup]? with
      | some (.answered name accepted) =>
          ([], ⟨traffic.cache.store name accepted,
            traffic.lookups.set lookup (.over name accepted)⟩)
      | _ => ([], traffic)
  | .evict name => ([], { traffic with cache := traffic.cache.evict name })
  | .clear => ([], { traffic with cache := traffic.cache.clear })

/-- The traffic after moves in order. -/
def after (timeout : Duration) (traffic : Traffic) (moves : List Move) : Traffic :=
  moves.foldl (fun traffic move => (traffic.step timeout move).2) traffic

/-- What sources give during moves in order. -/
def given (timeout : Duration) (traffic : Traffic) :
    List Move → List (String × Except SecretFault Secret)
  | [] => []
  | move :: moves =>
      (traffic.step timeout move).1 ++ (traffic.step timeout move).2.given timeout moves

/-- An eviction of the name takes effect: whatever comes next, lookups of the name that begin
after it end with what a source has given since. -/
def Effective (timeout : Duration) (traffic : Traffic) (name : String) : Prop :=
  ∀ moves lookup result, traffic.lookups.length ≤ lookup →
    (traffic.after timeout (.evict name :: moves)).lookups[lookup]? = some (.over name result) →
      (name, result) ∈ traffic.given timeout (.evict name :: moves)

/-- Some lookup of the name has been given a secret that it has not stored. -/
def Holding (traffic : Traffic) (name : String) : Prop :=
  ∃ progress ∈ traffic.lookups, progress.Holds name

variable {timeout : Duration} {traffic : Traffic} {cache : SecretCache} {source : SecretSource}
  {name wanted : String} {count lookup : Nat}
  {given : List (String × Except SecretFault Secret)} {accepted : Except SecretFault Secret}

/-! ## After an eviction -/

/-- What is known of a name has been given lately: what is remembered of it, what lookups are
about to store, and what has come of the lookups after the first ones. -/
structure Renewed (name : String) (count : Nat) (given : List (String × Except SecretFault Secret))
    (traffic : Traffic) : Prop where
  remembered : ∀ secret, traffic.cache.cached? name = some secret → (name, .ok secret) ∈ given
  known : ∀ lookup progress accepted, traffic.lookups[lookup]? = some progress →
    progress.outcome? = some (name, accepted) → count ≤ lookup ∨ progress.Holds name →
      (name, accepted) ∈ given

/-- A cache that remembers less is as good. -/
theorem Renewed.forget (renewed : Renewed name count given traffic)
    (fewer : ∀ secret, cache.cached? name = some secret →
      traffic.cache.cached? name = some secret) :
    Renewed name count given { traffic with cache := cache } where
  remembered secret remembered := renewed.remembered secret (fewer secret remembered)
  known := renewed.known

theorem Renewed.begin (renewed : Renewed name count given traffic) (wanted : String) :
    Renewed name count given
      { traffic with lookups := traffic.lookups ++ [begun traffic.cache wanted] } where
  remembered := renewed.remembered
  known lookup progress accepted found outcome recent := by
    rcases Nat.lt_or_ge lookup traffic.lookups.length with earlier | last
    · rw [List.getElem?_append_left earlier] at found
      exact renewed.known lookup progress accepted found outcome recent
    · rw [List.getElem?_append_right last] at found
      obtain rfl := List.mem_singleton.mp (List.mem_of_getElem? found)
      -- Only a lookup that was served from the cache has an outcome at once.
      unfold begun at outcome
      split at outcome
      · rename_i secret remembered
        cases outcome
        exact renewed.remembered secret remembered
      · cases outcome

theorem Renewed.answer (renewed : Renewed name count given traffic) (lookup : Nat)
    (wanted : String) (accepted : Except SecretFault Secret) :
    Renewed name count (given ++ [(wanted, accepted)])
      { traffic with lookups := traffic.lookups.set lookup (.answered wanted accepted) } where
  remembered secret remembered :=
    List.mem_append_left _ (renewed.remembered secret remembered)
  known other progress result found outcome recent := by
    rw [List.getElem?_set] at found
    split at found
    · split at found
      · cases found
        cases outcome
        exact List.mem_append_right _ List.mem_cons_self
      · cases found
    · exact List.mem_append_left _ (renewed.known other progress result found outcome recent)

theorem Renewed.finish (renewed : Renewed name count given traffic)
    (answered : traffic.lookups[lookup]? = some (.answered wanted accepted)) :
    Renewed name count given
      ⟨traffic.cache.store wanted accepted,
        traffic.lookups.set lookup (.over wanted accepted)⟩ where
  remembered secret remembered := by
    cases accepted with
    | error fault => exact renewed.remembered secret remembered
    | ok stored =>
        simp only [store, cached?_remember] at remembered
        split at remembered
        · rename_i same
          subst same
          cases remembered
          exact renewed.known lookup _ _ answered rfl (.inr ⟨_, rfl⟩)
        · exact renewed.remembered secret remembered
  known other progress result found outcome recent := by
    rw [List.getElem?_set] at found
    split at found
    · rename_i same
      subst same
      split at found
      · cases found
        cases outcome
        rcases recent with recent | ⟨_, shape⟩
        · exact renewed.known lookup _ _ answered rfl (.inl recent)
        · cases shape
      · cases found
    · exact renewed.known other progress result found outcome recent

/-- Each move keeps what is known to what has been given. -/
theorem Renewed.step (renewed : Renewed name count given traffic) (move : Move) :
    Renewed name count (given ++ (traffic.step timeout move).1)
      (traffic.step timeout move).2 := by
  cases move with
  | begin wanted =>
      rw [Traffic.step, List.append_nil]
      exact renewed.begin wanted
  | answer lookup source =>
      rw [Traffic.step]
      split
      · exact renewed.answer lookup _ _
      · rwa [List.append_nil]
  | finish lookup =>
      rw [Traffic.step]
      split
      · rename_i answered
        rw [List.append_nil]
        exact renewed.finish answered
      · rwa [List.append_nil]
  | evict dropped =>
      rw [Traffic.step, List.append_nil]
      refine renewed.forget fun secret remembered => ?_
      rw [cached?_evict] at remembered
      split at remembered
      · cases remembered
      · exact remembered
  | clear =>
      rw [Traffic.step, List.append_nil]
      exact renewed.forget fun secret remembered => by cases remembered

theorem Renewed.after (renewed : Renewed name count given traffic) (timeout : Duration)
    (moves : List Move) :
    Renewed name count (given ++ traffic.given timeout moves) (traffic.after timeout moves) := by
  induction moves generalizing given traffic with
  | nil => rwa [Traffic.given, List.append_nil]
  | cons move moves inductionHypothesis =>
      rw [Traffic.given, ← List.append_assoc]
      exact inductionHypothesis (renewed.step move)

/-- When no lookup holds a secret of the name, nothing is known of it after its eviction. -/
theorem renewed_evict (free : ¬ traffic.Holding name) :
    Renewed name traffic.lookups.length [] { traffic with cache := traffic.cache.evict name } where
  remembered secret remembered := by
    rw [cached?_evict, if_pos rfl] at remembered
    cases remembered
  known lookup progress accepted found outcome recent := by
    rcases recent with recent | holds
    · rw [List.getElem?_eq_none recent] at found
      cases found
    · exact absurd ⟨progress, List.mem_of_getElem? found, holds⟩ free

/-- Evictions take effect while no lookup of the name holds a secret. -/
theorem effective_of_not_holding (free : ¬ traffic.Holding name) :
    traffic.Effective timeout name := by
  intro moves lookup result recent ended
  have renewed := (renewed_evict free).after timeout moves
  exact renewed.known lookup _ result ended rfl (.inl recent)

/-- A lookup that holds a secret stores it after the eviction, and the next one is served with
it. -/
theorem not_effective_of_holding (holding : traffic.Holding name) :
    ¬ traffic.Effective timeout name := by
  obtain ⟨_, among, secret, rfl⟩ := holding
  obtain ⟨lookup, found⟩ := List.mem_iff_getElem?.mp among
  intro effective
  have given : traffic.given timeout [.evict name, .finish lookup, .begin name] = [] := by
    simp [Traffic.given, step, found]
  have ended : (traffic.after timeout
      [.evict name, .finish lookup, .begin name]).lookups[traffic.lookups.length]? =
        some (.over name (.ok secret)) := by
    simp [Traffic.after, step, found, begun, store, cached?_remember]
  have renewed := effective _ _ _ (Nat.le_refl _) ended
  rw [given] at renewed
  cases renewed

/-! ## Lookups one by one and together -/

/-- A lookup whose answer is stored at once, among others. -/
theorem after_answer_finish (timeout : Duration) (source : SecretSource) (read cache : SecretCache)
    (name : String) (past pending : List Progress) (moves : List Move) :
    (Traffic.mk cache (past ++ begun read name :: pending)).after timeout
        (.answer past.length source :: .finish past.length :: moves) =
      match read.cached? name with
      | some secret =>
          (Traffic.mk cache (past ++ .over name (.ok secret) :: pending)).after timeout moves
      | none =>
          let accepted := accept name timeout source.delay (source.answer name)
          (Traffic.mk (cache.store name accepted)
            (past ++ .over name accepted :: pending)).after timeout moves := by
  cases remembered : read.cached? name <;> simp [Traffic.after, step, begun, remembered]

/-- A lookup whose steps nothing comes between is `get`. -/
theorem after_lookup (timeout : Duration) (traffic : Traffic) (source : SecretSource)
    (name : String) :
    traffic.after timeout [.begin name, .answer traffic.lookups.length source,
        .finish traffic.lookups.length] =
      ⟨(traffic.cache.get timeout source name).cache,
        traffic.lookups ++ [.over name (traffic.cache.get timeout source name).result]⟩ := by
  refine (after_answer_finish timeout source traffic.cache traffic.cache name traffic.lookups []
    []).trans ?_
  unfold get
  cases traffic.cache.cached? name <;> rfl

/-- The sources of lookups answer in order, and each answer is stored at once. -/
def inTurn (source : SecretSource) (lookup : Nat) : List String → List Move
  | [] => []
  | _ :: names => .answer lookup source :: .finish lookup :: inTurn source (lookup + 1) names

/-- Lookups that have read the cache and are answered in turn are `answerEach`. -/
theorem after_inTurn (timeout : Duration) (source : SecretSource) (read cache : SecretCache)
    (past : List Progress) (names : List String) :
    (Traffic.mk cache (past ++ names.map (begun read))).after timeout
        (inTurn source past.length names) =
      let lookups := cache.answerEach timeout source
        (names.map fun name => (name, read.cached? name))
      ⟨(lookups.getLast?.map (·.cache)).getD cache,
        past ++ List.zipWith (fun name lookup => .over name lookup.result) names lookups⟩ := by
  induction names generalizing past cache with
  | nil => simp [inTurn, Traffic.after, answerEach]
  | cons name names inductionHypothesis =>
      -- The first of the lookups joins those that are over.
      have rest (cache : SecretCache) (result : Except SecretFault Secret) :=
        inductionHypothesis cache (past ++ [.over name result])
      simp only [List.append_assoc, List.singleton_append, List.length_append,
        List.length_singleton] at rest
      have last (lookup : Lookup) (lookups : List Lookup) :
          ((lookup :: lookups).getLast?.map (·.cache)).getD cache =
            (lookups.getLast?.map (·.cache)).getD lookup.cache := by
        rw [List.getLast?_cons]
        cases lookups.getLast? <;> rfl
      rw [inTurn, List.map_cons, after_answer_finish]
      cases remembered : read.cached? name <;>
        simp only [rest, List.map_cons, remembered, answerEach, last, List.zipWith_cons_cons]

theorem after_begin (timeout : Duration) (cache : SecretCache) (past : List Progress)
    (names : List String) :
    (Traffic.mk cache past).after timeout (names.map .begin) =
      ⟨cache, past ++ names.map (begun cache)⟩ := by
  induction names generalizing past with
  | nil => simp [Traffic.after]
  | cons name names inductionHypothesis =>
      have rest := inductionHypothesis (past ++ [begun cache name])
      rwa [List.append_assoc, List.singleton_append, ← List.map_cons] at rest

/-- Lookups that begin together and are answered in turn, not at once, are `getTogether`. -/
theorem after_together (timeout : Duration) (cache : SecretCache) (names : List String)
    (slow : source.delay.nanoseconds ≠ 0) :
    (Traffic.mk cache []).after timeout (names.map .begin ++ inTurn source 0 names) =
      let lookups := cache.getTogether timeout source names
      ⟨(lookups.getLast?.map (·.cache)).getD cache,
        List.zipWith (fun name lookup => .over name lookup.result) names lookups⟩ := by
  have begun := after_begin timeout cache [] names
  have answered := after_inTurn timeout source cache cache [] names
  rw [Traffic.after] at begun
  rw [Traffic.after, List.foldl_append, begun, getTogether, if_neg slow]
  exact answered

/-- An eviction takes effect on all later lookups of the name exactly when, at that moment, no
lookup of the name has been given a secret that it has not stored yet. -/
theorem effective_iff_not_holding (timeout : Duration) :
    (∀ (traffic : Traffic) (name : String),
        traffic.Effective timeout name ↔ ¬ traffic.Holding name) ∧
      ∀ (traffic : Traffic) (source : SecretSource) (name : String),
        traffic.after timeout [.begin name, .answer traffic.lookups.length source,
            .finish traffic.lookups.length] =
          ⟨(traffic.cache.get timeout source name).cache,
            traffic.lookups ++ [.over name (traffic.cache.get timeout source name).result]⟩ :=
  ⟨fun _ _ => ⟨fun effective holding => not_effective_of_holding holding effective,
      effective_of_not_holding⟩,
    after_lookup timeout⟩

namespace Rotated

/-- The source before the rotation. -/
def former : SecretSource := .table [("a", .ok ⟨[1]⟩)] ⟨0⟩

/-- A lookup has been given the secret and has not stored it. -/
def holding : Traffic := start.after (.milliseconds 2000) [.begin "a", .answer 0 former]

/-- The eviction that follows, and the next lookup. -/
def moves : List Move := [.evict "a", .finish 0, .begin "a"]

end Rotated

/-- The lookup that begins after the eviction is served with the secret of before, although no
source has given anything since. -/
theorem held_secret_outlives_eviction :
    (Rotated.holding.after (.milliseconds 2000) Rotated.moves).lookups =
        [.over "a" (.ok ⟨[1]⟩), .over "a" (.ok ⟨[1]⟩)] ∧
      Rotated.holding.given (.milliseconds 2000) Rotated.moves = [] ∧
      ¬ Rotated.holding.Effective (.milliseconds 2000) "a" := by
  have served : (Rotated.holding.after (.milliseconds 2000) Rotated.moves).lookups =
      [.over "a" (.ok ⟨[1]⟩), .over "a" (.ok ⟨[1]⟩)] := rfl
  refine ⟨served, rfl, fun effective => ?_⟩
  have renewed := effective [.finish 0, .begin "a"] 1 (.ok ⟨[1]⟩) (by decide)
    (congrArg (·[1]?) served)
  cases renewed

end Traffic
end Admission.SecretCache
