import Admission.Proofs.Secret.Lookup

/-!
# Histories of a secret cache

A source may answer differently each time it is asked. What a cache remembers of a name is told
by what has happened to that name: the secret of the last call that was answered in time with a
secret that is not empty, unless the name was evicted or the cache cleared after that call.
-/

namespace Admission.SecretCache

/-- What is done to a cache. -/
inductive Action where
  /-- A lookup, with the source as it stands when the lookup asks it. -/
  | lookup (name : String) (source : SecretSource)
  | evict (name : String)
  | clear

/-- What has happened to a cache. -/
inductive Event where
  | lookup (name : String) (source : SecretSource) (result : Except SecretFault Secret)
      (asked : Bool)
  /-- An eviction and what it reported. -/
  | eviction (name : String) (found : Bool)
  | clearing

/-- Whether an action is about a name. Clearing is about all of them. -/
def Action.concerns (name : String) : Action → Bool
  | .lookup other _ | .evict other => other == name
  | .clear => true

namespace Event

/-- Whether an event is about a name. -/
def concerns (name : String) : Event → Bool
  | .lookup other _ _ _ | .eviction other _ => other == name
  | .clearing => true

/-- The event is a call of the source for the name, which was answered in time with a secret
that is not empty. -/
def Brings (timeout : Duration) (event : Event) (name : String) (secret : Secret) : Prop :=
  ∃ source result, event = .lookup name source result true ∧ source.answer name = .ok secret ∧
    source.delay.nanoseconds ≤ timeout.nanoseconds ∧ secret.isEmpty = false

/-- The event evicts the name or clears the cache. -/
def Drops (event : Event) (name : String) : Prop :=
  (∃ found, event = .eviction name found) ∨ event = .clearing

end Event

/-- A secret stands in a history: it was brought for the name, and since then nothing was
brought for the name and nothing has dropped it. -/
def Stands (timeout : Duration) (history : List Event) (name : String) (secret : Secret) : Prop :=
  ∃ earlier event later, history = earlier ++ event :: later ∧ event.Brings timeout name secret ∧
    ∀ next ∈ later, ¬ next.Drops name ∧ ∀ other, ¬ next.Brings timeout name other

/-- What a call of the source comes to: nothing in time, a failure, an empty secret or a
secret. -/
inductive Answered (timeout : Duration) (source : SecretSource) (name : String) :
    Except SecretFault Secret → Prop
  | late (late : timeout.nanoseconds < source.delay.nanoseconds) :
      Answered timeout source name (.error (.unavailable ("lookup of " ++ name ++ " timed out")))
  | failed {fault : SecretFault} (punctual : source.delay.nanoseconds ≤ timeout.nanoseconds)
      (answer : source.answer name = .error fault) : Answered timeout source name (.error fault)
  | empty {secret : Secret} (punctual : source.delay.nanoseconds ≤ timeout.nanoseconds)
      (answer : source.answer name = .ok secret) (empty : secret.isEmpty = true) :
      Answered timeout source name (.error (.unavailable ("secret " ++ name ++ " is empty")))
  | given {secret : Secret} (punctual : source.delay.nanoseconds ≤ timeout.nanoseconds)
      (answer : source.answer name = .ok secret) (filled : secret.isEmpty = false) :
      Answered timeout source name (.ok secret)

/-- A cache behaves as its history tells. -/
structure Follows (timeout : Duration) (history : List Event) (cache : SecretCache) : Prop where
  /-- A secret that stands is returned without a call. -/
  served : ∀ name secret, Stands timeout history name secret →
    ∀ source, cache.get timeout source name = ⟨.ok secret, cache, false⟩
  /-- Where none stands the source is called, and a failure leaves the cache as it was. -/
  asked : ∀ name, (∀ secret, ¬ Stands timeout history name secret) → ∀ source,
    (cache.get timeout source name).asked = true ∧
      Answered timeout source name (cache.get timeout source name).result ∧
      ∀ fault, (cache.get timeout source name).result = .error fault →
        (cache.get timeout source name).cache = cache
  /-- An eviction reports whether a secret stands. -/
  evicted : ∀ name, cache.remembers name = true ↔ ∃ secret, Stands timeout history name secret
  /-- The size counts the names of which a secret stands. -/
  size : ∃ names : List String, names.Nodup ∧ cache.size = names.length ∧
    ∀ name, name ∈ names ↔ ∃ secret, Stands timeout history name secret

/-- One action, with what it comes to. -/
def act (timeout : Duration) (cache : SecretCache) : Action → Event × SecretCache
  | .lookup name source =>
      let lookup := cache.get timeout source name
      (.lookup name source lookup.result lookup.asked, lookup.cache)
  | .evict name => (.eviction name (cache.remembers name), cache.evict name)
  | .clear => (.clearing, cache.clear)

/-- What happens when actions are taken in order. -/
def record (timeout : Duration) (cache : SecretCache) : List Action → List Event
  | [] => []
  | action :: actions =>
      (cache.act timeout action).1 :: (cache.act timeout action).2.record timeout actions

/-- The cache once actions have been taken in order. -/
def after (timeout : Duration) (cache : SecretCache) (actions : List Action) : SecretCache :=
  actions.foldl (fun cache action => (cache.act timeout action).2) cache

variable {cache left right : SecretCache} {timeout : Duration} {source : SecretSource}
  {name other : String} {secret : Secret} {event : Event} {action : Action} {history : List Event}
  {actions : List Action}

/-! ## What is remembered -/

/-- Evicting a name changes what is remembered of that name alone. -/
theorem cached?_evict :
    (cache.evict name).cached? other = if other = name then none else cache.cached? other := by
  unfold cached? evict
  rw [List.find?_filter]
  by_cases same : other = name
  · rw [if_pos same, Option.map_eq_none_iff, List.find?_eq_none]
    intro entry _ hit
    simp [same] at hit
  · rw [if_neg same]
    congr 2
    funext entry
    by_cases hit : entry.1 = other
    · simp [hit, same]
    · simp [hit]

/-- The names of which a secret is remembered. -/
def names (cache : SecretCache) : List String := cache.entries.map (·.1)

/-- Names are remembered once each. -/
def Distinct (cache : SecretCache) : Prop := cache.names.Nodup

theorem mem_names_iff : name ∈ cache.names ↔ ∃ secret, cache.cached? name = some secret := by
  unfold names cached?
  rw [← Option.isSome_iff_exists, Option.isSome_map, List.find?_isSome, List.mem_map]
  simp only [beq_iff_eq]

theorem Distinct.evict (distinct : cache.Distinct) : (cache.evict name).Distinct :=
  distinct.sublist (List.filter_sublist.map _)

theorem Distinct.remember (distinct : cache.Distinct) : (cache.remember name secret).Distinct := by
  refine List.nodup_cons.mpr ⟨fun among => ?_, distinct.evict⟩
  obtain ⟨found, remembered⟩ := mem_names_iff.mp among
  rw [cached?_evict, if_pos rfl] at remembered
  cases remembered

/-! ## One action -/

/-- The answer of a call is as its source gives it. -/
theorem answered_accept :
    Answered timeout source name (accept name timeout source.delay (source.answer name)) := by
  unfold accept
  split
  · rename_i late
    exact .late late
  · rename_i punctual
    split
    · rename_i fault answer
      exact .failed (Nat.le_of_not_lt punctual) answer
    · rename_i secret answer
      split
      · rename_i empty
        exact .empty (Nat.le_of_not_lt punctual) answer empty
      · rename_i filled
        exact .given (Nat.le_of_not_lt punctual) answer (Bool.eq_false_iff.mpr filled)

theorem brings_lookup_iff {result : Except SecretFault Secret} {asked : Bool} :
    (Event.lookup other source result asked).Brings timeout name secret ↔
      other = name ∧ asked = true ∧
        accept other timeout source.delay (source.answer other) = .ok secret := by
  rw [accept_eq_ok_iff]
  constructor
  · rintro ⟨_, _, same, brings⟩
    cases same
    exact ⟨rfl, rfl, brings⟩
  · rintro ⟨rfl, rfl, brings⟩
    exact ⟨source, result, rfl, brings⟩

/-- After an action a secret is remembered when the action has brought it, or when it was
remembered before and the action has neither brought another nor dropped it. -/
theorem cached?_act : (cache.act timeout action).2.cached? name = some secret ↔
    (cache.act timeout action).1.Brings timeout name secret ∨
      (cache.cached? name = some secret ∧ ¬ (cache.act timeout action).1.Drops name ∧
        ∀ other, ¬ (cache.act timeout action).1.Brings timeout name other) := by
  cases action with
  | clear => simp [act, clear, empty, cached?, Event.Brings, Event.Drops]
  | evict dropped =>
      by_cases same : name = dropped
      · simp [act, cached?_evict, Event.Brings, Event.Drops, same]
      · simp [act, cached?_evict, Event.Brings, Event.Drops, same, Ne.symm same]
  | lookup wanted source =>
      simp only [act, get, brings_lookup_iff, Event.Drops, reduceCtorEq, exists_false, or_self,
        not_false_eq_true, true_and]
      cases remembered : cache.cached? wanted with
      | some found => simp
      | none =>
          dsimp only
          cases accepted : accept wanted timeout source.delay (source.answer wanted) with
          | error fault => simp [store]
          | ok found =>
              by_cases same : name = wanted
              · subst same
                simp [store, cached?_remember, remembered]
              · simp [store, cached?_remember, same, Ne.symm same]

/-- An action leaves the names distinct. -/
theorem Distinct.act (distinct : cache.Distinct) : (cache.act timeout action).2.Distinct := by
  cases action with
  | clear => exact List.nodup_nil
  | evict dropped => exact distinct.evict
  | lookup wanted source =>
      simp only [SecretCache.act, get]
      split
      · exact distinct
      · unfold store
        split
        · exact distinct.remember
        · exact distinct

/-! ## Histories -/

/-- What stands after one more event. -/
theorem stands_append_iff : Stands timeout (history ++ [event]) name secret ↔
    event.Brings timeout name secret ∨
      (Stands timeout history name secret ∧ ¬ event.Drops name ∧
        ∀ other, ¬ event.Brings timeout name other) := by
  constructor
  · rintro ⟨earlier, brought, later, shape, brings, quiet⟩
    rcases List.eq_nil_or_concat later with rfl | ⟨between, last, rfl⟩
    · obtain ⟨-, same⟩ := List.append_inj' shape rfl
      cases same
      exact .inl brings
    · rw [List.concat_eq_append, ← List.cons_append, ← List.append_assoc] at shape
      obtain ⟨rfl, same⟩ := List.append_inj' shape rfl
      cases same
      rw [List.concat_eq_append] at quiet
      exact .inr ⟨⟨earlier, brought, between, rfl, brings,
        fun next among => quiet next (List.mem_append_left _ among)⟩,
        quiet event (List.mem_append_right _ List.mem_cons_self)⟩
  · rintro (brings | ⟨⟨earlier, brought, later, rfl, brings, quiet⟩, kept⟩)
    · exact ⟨history, event, [], rfl, brings, fun _ among => absurd among List.not_mem_nil⟩
    · refine ⟨earlier, brought, later ++ [event], by simp, brings, fun next among => ?_⟩
      rcases List.mem_append.mp among with among | among
      · exact quiet next among
      · rwa [List.mem_singleton.mp among]

theorem not_stands_nil : ¬ Stands timeout [] name secret := by
  rintro ⟨earlier, event, later, shape, _⟩
  exact absurd (congrArg List.length shape) (by simp)

/-- A cache remembers what stands in its history, each name once. -/
structure Mirrors (timeout : Duration) (history : List Event) (cache : SecretCache) : Prop where
  remembered : ∀ name secret,
    cache.cached? name = some secret ↔ Stands timeout history name secret
  distinct : cache.Distinct

theorem mirrors_empty : Mirrors timeout [] empty where
  remembered name secret := by simp [empty, cached?, not_stands_nil]
  distinct := List.nodup_nil

/-- Each action keeps the cache in step with its history. -/
theorem Mirrors.act (mirrors : Mirrors timeout history cache) (action : Action) :
    Mirrors timeout (history ++ [(cache.act timeout action).1]) (cache.act timeout action).2 where
  remembered name secret := by rw [cached?_act, stands_append_iff, mirrors.remembered]
  distinct := mirrors.distinct.act

theorem Mirrors.after (mirrors : Mirrors timeout history cache) (actions : List Action) :
    Mirrors timeout (history ++ cache.record timeout actions) (cache.after timeout actions) := by
  induction actions generalizing cache history with
  | nil => rwa [record, List.append_nil]
  | cons action actions inductionHypothesis =>
      have stepped := inductionHypothesis (mirrors.act action)
      rwa [List.append_assoc, List.singleton_append] at stepped

/-- A cache that is in step with its history behaves as the history tells. -/
theorem Mirrors.follows (mirrors : Mirrors timeout history cache) :
    Follows timeout history cache where
  served name secret stands source := by
    rw [get, (mirrors.remembered name secret).mpr stands]
  asked name unheld source := by
    have forgotten : cache.cached? name = none := by
      rw [Option.eq_none_iff_forall_ne_some]
      exact fun secret remembered => unheld secret ((mirrors.remembered name secret).mp remembered)
    rw [get, forgotten]
    refine ⟨rfl, answered_accept, fun fault failed => ?_⟩
    dsimp only at failed ⊢
    rw [failed, store]
  evicted name := by
    rw [remembers, Option.isSome_iff_exists]
    exact exists_congr (mirrors.remembered name)
  size := by
    refine ⟨cache.names, mirrors.distinct, by rw [size, names, List.length_map], fun name => ?_⟩
    rw [mem_names_iff]
    exact exists_congr (mirrors.remembered name)

/-! ## Names apart -/

/-- An action concerns the names that its event concerns. -/
theorem concerns_act : (cache.act timeout action).1.concerns name = action.concerns name := by
  cases action <;> rfl

/-- Caches that agree on a name come to the same by an action that concerns it, and agree on
the name again. -/
theorem act_congr (timeout : Duration) (agree : left.cached? name = right.cached? name)
    (concerned : action.concerns name = true) :
    (left.act timeout action).1 = (right.act timeout action).1 ∧
      (left.act timeout action).2.cached? name = (right.act timeout action).2.cached? name := by
  have events : (left.act timeout action).1 = (right.act timeout action).1 := by
    cases action with
    | clear => rfl
    | evict dropped =>
        obtain rfl := beq_iff_eq.mp concerned
        simp only [act, remembers, agree]
    | lookup wanted source =>
        obtain rfl := beq_iff_eq.mp concerned
        simp only [act, get, agree]
        cases right.cached? wanted <;> rfl
  refine ⟨events, Option.ext fun secret => ?_⟩
  rw [cached?_act, cached?_act, events, agree]

/-- An action that does not concern a name changes nothing of it. -/
theorem cached?_act_of_not_concerns (apart : action.concerns name = false) :
    (cache.act timeout action).2.cached? name = cache.cached? name := by
  have unrelated : (cache.act timeout action).1.concerns name = false := concerns_act.trans apart
  refine Option.ext fun secret => ?_
  have brings (secret : Secret) : ¬ (cache.act timeout action).1.Brings timeout name secret := by
    rintro ⟨_, _, shape, _⟩
    simp [shape, Event.concerns] at unrelated
  have drops : ¬ (cache.act timeout action).1.Drops name := by
    rintro (⟨_, shape⟩ | shape) <;> simp [shape, Event.concerns] at unrelated
  simp [cached?_act, brings, drops]

/-- What comes of the operations on a name is what comes of them without those on other
names. -/
theorem filter_record (agree : left.cached? name = right.cached? name) :
    (left.record timeout actions).filter (Event.concerns name) =
      right.record timeout (actions.filter (Action.concerns name)) := by
  induction actions generalizing left right with
  | nil => rfl
  | cons action actions inductionHypothesis =>
      rw [record]
      by_cases concerned : action.concerns name = true
      · obtain ⟨same, again⟩ := act_congr timeout agree concerned
        rw [List.filter_cons_of_pos (concerns_act.trans concerned),
          List.filter_cons_of_pos concerned, record, same, inductionHypothesis again]
      · have apart : action.concerns name = false := Bool.eq_false_iff.mpr concerned
        rw [List.filter_cons_of_neg (by rwa [concerns_act]), List.filter_cons_of_neg concerned]
        exact inductionHypothesis ((cached?_act_of_not_concerns apart).trans agree)

/-- Whatever lookups, evictions and clearings a cache has been through, and however the answers
of its source have changed between them, it behaves as its history tells; and what comes of the
operations on one name does not depend on those on the others. -/
theorem operations_follow_history (timeout : Duration) (actions : List Action) :
    Follows timeout (empty.record timeout actions) (empty.after timeout actions) ∧
      ∀ name, (empty.record timeout actions).filter (Event.concerns name) =
        empty.record timeout (actions.filter (Action.concerns name)) :=
  ⟨(mirrors_empty.after actions).follows, fun _ => filter_record rfl⟩

/-- A secret that was rotated is found after its eviction. -/
example : ((empty.after ⟨1⟩ [.lookup "a" (.table [("a", .ok ⟨[1]⟩)] ⟨0⟩), .evict "a"]).get ⟨1⟩
    (.table [("a", .ok ⟨[2]⟩)] ⟨0⟩) "a").result = .ok ⟨[2]⟩ := rfl

end Admission.SecretCache
