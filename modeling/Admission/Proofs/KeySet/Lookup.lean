import Admission.KeySet.Cache

/-!
# Courses of a lookup

A lookup of a key reads the snapshot and then, where the snapshot does not
settle it, refreshes or reads again. `Course` lists every way this can go, with
the result and the cache after it; what is known of a lookup is read off its
course. `lookup_course` is the only place that opens the two steps of a lookup.
-/

namespace Admission.KeyCache

variable {cache before after : KeyCache} {snapshot : Snapshot} {now asked answered : Instant}
  {keyId : String} {key : RsaKey} {reply : Reply} {fault : FetchFault}
  {result : Except KeyFault RsaKey}

/-- Both steps of a lookup. The second has an instant of its own, for a fetch may
take its time. -/
def lookup (cache : KeyCache) (asked answered : Instant) (keyId : String) (reply : Reply) :
    Except KeyFault RsaKey × KeyCache :=
  let (stage, begun) := cache.begin asked keyId
  begun.resume stage answered keyId reply

/-- A lookup that takes no time is `key`. -/
theorem key_eq_lookup :
    (cache.key now keyId reply).result = (cache.lookup now now keyId reply).1 ∧
      (cache.key now keyId reply).cache = (cache.lookup now now keyId reply).2 := by
  unfold key lookup
  simp only
  split <;> exact ⟨rfl, rfl⟩

/-! ## What a fetch leaves behind -/

/-- The cache after a fetch that brought no keys. -/
def missed (cache : KeyCache) : KeyCache :=
  { cache with fetches := cache.fetches + 1, refreshes := cache.refreshes ++ [false] }

/-- The cache after a fetch that brought keys with their window. -/
def installed (cache : KeyCache) (keys : KeySet) (window : Freshness.Window) : KeyCache :=
  { cache with
    snapshot := some ⟨keys, window, cache.generation + 1⟩
    fetches := cache.fetches + 1
    refreshes := cache.refreshes ++ [true] }

/-- The cache after a forced refresh was claimed. -/
def claimed (cache : KeyCache) (now : Instant) : KeyCache :=
  { cache with lastForced := some now.millis }

/-- A refresh uses a snapshot that has replaced the observed one, or fetches. -/
theorem refreshAfter_cases (cache : KeyCache) (observed : Nat) (now : Instant) (reply : Reply) :
    (∃ current, cache.snapshot = some current ∧ current.generation ≠ observed ∧
        current.standing now ≠ .stale ∧
        cache.refreshAfter observed now reply = (.ok current, cache)) ∨
      (∃ fault, evaluate cache.settings now reply = .error fault ∧
        cache.refreshAfter observed now reply = (.error fault, cache.missed)) ∨
      ∃ keys window, evaluate cache.settings now reply = .ok (keys, window) ∧
        cache.refreshAfter observed now reply =
          (.ok ⟨keys, window, cache.generation + 1⟩, cache.installed keys window) := by
  unfold refreshAfter
  cases replaced : cache.replaced? observed now with
  | some current =>
      left
      unfold replaced? at replaced
      split at replaced
      · rename_i held present
        split at replaced
        · rename_i usable
          cases replaced
          exact ⟨_, present, usable.1, usable.2, rfl⟩
        · cases replaced
      · cases replaced
  | none =>
      right
      cases evaluated : evaluate cache.settings now reply with
      | error fault => exact .inl ⟨fault, rfl, rfl⟩
      | ok content => exact .inr ⟨content.1, content.2, rfl, rfl⟩

/-- A refresh of the generation at hand fetches. -/
theorem refreshAfter_generation (cache : KeyCache) (now : Instant) (reply : Reply) :
    (∃ fault, evaluate cache.settings now reply = .error fault ∧
        cache.refreshAfter cache.generation now reply = (.error fault, cache.missed)) ∨
      ∃ keys window, evaluate cache.settings now reply = .ok (keys, window) ∧
        cache.refreshAfter cache.generation now reply =
          (.ok ⟨keys, window, cache.generation + 1⟩, cache.installed keys window) := by
  rcases cache.refreshAfter_cases cache.generation now reply with ⟨current, present, other, _⟩ | fetch
  · exact absurd (by rw [generation, present]) other
  · exact fetch

/-! ## Background refreshes started by a lookup -/

/-- Finding a key changes nothing but the background refresh. -/
theorem found_eq (cache : KeyCache) (snapshot : Snapshot) (now : Instant) :
    ∃ background, cache.found snapshot now = { cache with background := background } := by
  unfold found startBackground
  split
  · split
    · exact ⟨some snapshot.generation, rfl⟩
    · exact ⟨cache.background, rfl⟩
  · exact ⟨cache.background, rfl⟩

@[simp] theorem found_snapshot : (cache.found snapshot now).snapshot = cache.snapshot := by
  obtain ⟨_, same⟩ := cache.found_eq snapshot now
  rw [same]

@[simp] theorem found_fetches : (cache.found snapshot now).fetches = cache.fetches := by
  obtain ⟨_, same⟩ := cache.found_eq snapshot now
  rw [same]

@[simp] theorem found_refreshes : (cache.found snapshot now).refreshes = cache.refreshes := by
  obtain ⟨_, same⟩ := cache.found_eq snapshot now
  rw [same]

/-! ## Courses -/

/-- The snapshot maps an identifier to a key. -/
def Holds (cache : KeyCache) (keyId : String) (key : RsaKey) : Prop :=
  ∃ snapshot, cache.snapshot = some snapshot ∧ snapshot.keys.find? keyId = some key

/-- There is a snapshot, and it lacks an identifier. -/
def Lacks (cache : KeyCache) (keyId : String) : Prop :=
  ∃ snapshot, cache.snapshot = some snapshot ∧ snapshot.keys.find? keyId = none

@[simp] theorem holds_found : (cache.found snapshot now).Holds keyId key ↔ cache.Holds keyId key := by
  simp [Holds]

@[simp] theorem lacks_found : (cache.found snapshot now).Lacks keyId ↔ cache.Lacks keyId := by
  simp [Lacks]

@[simp] theorem holds_installed {keys : KeySet} {window : Freshness.Window} :
    (cache.installed keys window).Holds keyId key ↔ keys.find? keyId = some key := by
  simp [Holds, installed]

@[simp] theorem lacks_installed {keys : KeySet} {window : Freshness.Window} :
    (cache.installed keys window).Lacks keyId ↔ keys.find? keyId = none := by
  simp [Lacks, installed]

@[simp] theorem holds_missed : cache.missed.Holds keyId key ↔ cache.Holds keyId key := Iff.rfl

@[simp] theorem lacks_missed : cache.missed.Lacks keyId ↔ cache.Lacks keyId := Iff.rfl

/-- A snapshot maps an identifier to one key only. -/
theorem Holds.unique {other : RsaKey} (first : cache.Holds keyId key)
    (second : cache.Holds keyId other) : key = other := by
  obtain ⟨snapshot, present, known⟩ := first
  obtain ⟨_, again, found⟩ := second
  rw [present] at again
  cases again
  rw [known] at found
  exact Option.some.inj found

/-- An identifier is held or lacked, not both. -/
theorem Holds.not_lacks (holds : cache.Holds keyId key) : ¬ cache.Lacks keyId := by
  obtain ⟨snapshot, present, known⟩ := holds
  rintro ⟨_, again, unknown⟩
  rw [present] at again
  cases again
  rw [known] at unknown
  cases unknown

/-- A lookup has to fetch first: there is no snapshot, or a stale one. -/
def Due (cache : KeyCache) (now : Instant) : Prop :=
  ∀ snapshot, cache.snapshot = some snapshot → snapshot.standing now = .stale

/-- A lookup finds a snapshot that is not stale and lacks the identifier. -/
def Misses (cache : KeyCache) (now : Instant) (keyId : String) : Prop :=
  ∃ snapshot, cache.snapshot = some snapshot ∧ snapshot.standing now ≠ .stale ∧
    snapshot.keys.find? keyId = none

/-- The ways a lookup can go, each with its result and the cache after it. -/
inductive Course (cache : KeyCache) (asked answered : Instant) (keyId : String) (reply : Reply) :
    Except KeyFault RsaKey → KeyCache → Prop where
  /-- The key is held, and the snapshot is not stale. -/
  | held {snapshot : Snapshot} {key : RsaKey} (present : cache.snapshot = some snapshot)
      (usable : snapshot.standing asked ≠ .stale)
      (known : snapshot.keys.find? keyId = some key) :
      Course cache asked answered keyId reply (.ok key) (cache.found snapshot asked)
  /-- Keys are fetched, and the key is among them. -/
  | renewed {keys : KeySet} {window : Freshness.Window} {key : RsaKey} (due : cache.Due asked)
      (brings : evaluate cache.settings answered reply = .ok (keys, window))
      (known : keys.find? keyId = some key) :
      Course cache asked answered keyId reply (.ok key)
        ((cache.installed keys window).found ⟨keys, window, cache.generation + 1⟩ answered)
  /-- Keys are fetched, and the key is not among them. -/
  | unmatched {keys : KeySet} {window : Freshness.Window} (due : cache.Due asked)
      (brings : evaluate cache.settings answered reply = .ok (keys, window))
      (unknown : keys.find? keyId = none) :
      Course cache asked answered keyId reply (.error (.keyNotFound keyId))
        (cache.installed keys window)
  /-- The fetch fails, and the key of the stale snapshot serves. -/
  | fallback {key : RsaKey} {fault : FetchFault} (due : cache.Due asked)
      (fails : evaluate cache.settings answered reply = .error fault)
      (known : cache.Holds keyId key) :
      Course cache asked answered keyId reply (.ok key) cache.missed
  /-- The fetch fails, and no snapshot holds the key. -/
  | unavailable {fault : FetchFault} (due : cache.Due asked)
      (fails : evaluate cache.settings answered reply = .error fault)
      (unknown : ∀ key, ¬ cache.Holds keyId key) :
      Course cache asked answered keyId reply (.error (.fetchFailed fault)) cache.missed
  /-- A forced refresh brings keys. -/
  | forced {keys : KeySet} {window : Freshness.Window} (misses : cache.Misses asked keyId)
      (free : cache.forcedRecently asked = false)
      (brings : evaluate cache.settings answered reply = .ok (keys, window)) :
      Course cache asked answered keyId reply
        (keyIn ⟨keys, window, cache.generation + 1⟩ keyId)
        ((cache.claimed asked).installed keys window)
  /-- A forced refresh fails. -/
  | forcedInVain {fault : FetchFault} (misses : cache.Misses asked keyId)
      (free : cache.forcedRecently asked = false)
      (fails : evaluate cache.settings answered reply = .error fault) :
      Course cache asked answered keyId reply (.error (.fetchFailed fault))
        (cache.claimed asked).missed
  /-- It is too early for another forced refresh. -/
  | limited (misses : cache.Misses asked keyId) (recent : cache.forcedRecently asked = true) :
      Course cache asked answered keyId reply (.error (.keyNotFound keyId)) cache

theorem due_of_none (absent : cache.snapshot = none) : cache.Due now := by
  intro snapshot present
  rw [absent] at present
  cases present

/-- What a lookup does when it has to fetch, with the snapshot at hand to fall back on. -/
theorem course_of_due (due : cache.Due asked) :
    Course cache asked answered keyId reply
      (cache.resume (.refreshing cache.generation cache.snapshot) answered keyId reply).1
      (cache.resume (.refreshing cache.generation cache.snapshot) answered keyId reply).2 := by
  rcases cache.refreshAfter_generation answered reply with
    ⟨fault, fails, refreshed⟩ | ⟨keys, window, brings, refreshed⟩
  · cases fallback : cache.snapshot.bind fun snapshot => snapshot.keys.find? keyId with
    | some key =>
        simp only [resume, refreshed, fallback]
        exact .fallback due fails (Option.bind_eq_some_iff.mp fallback)
    | none =>
        simp only [resume, refreshed, fallback]
        refine .unavailable due fails fun key holds => ?_
        rw [Option.bind_eq_some_iff.mpr holds] at fallback
        cases fallback
  · cases known : keys.find? keyId with
    | some key =>
        simp only [resume, refreshed, known]
        exact .renewed due brings known
    | none =>
        simp only [resume, refreshed, known]
        exact .unmatched due brings known

/-- What a lookup does once it has claimed a forced refresh. -/
theorem course_of_claimed (misses : cache.Misses asked keyId)
    (free : cache.forcedRecently asked = false) :
    Course cache asked answered keyId reply
      ((cache.claimed asked).resume (.forcing cache.generation) answered keyId reply).1
      ((cache.claimed asked).resume (.forcing cache.generation) answered keyId reply).2 := by
  rcases (cache.claimed asked).refreshAfter_generation answered reply with
    ⟨fault, fails, refreshed⟩ | ⟨keys, window, brings, refreshed⟩
  · change (cache.claimed asked).refreshAfter cache.generation answered reply = _ at refreshed
    simp only [resume, refreshed]
    exact .forcedInVain misses free fails
  · change (cache.claimed asked).refreshAfter cache.generation answered reply = _ at refreshed
    simp only [resume, refreshed]
    exact .forced misses free brings

/-- A lookup that has to fetch refreshes the generation at hand. -/
theorem lookup_of_due (due : cache.Due asked) :
    cache.lookup asked answered keyId reply =
      cache.resume (.refreshing cache.generation cache.snapshot) answered keyId reply := by
  cases present : cache.snapshot with
  | none => simp only [lookup, begin, present, generation]
  | some snapshot => simp only [lookup, begin, present, generation, due snapshot present, if_true]

/-- Every lookup takes one of the courses. -/
theorem lookup_course (cache : KeyCache) (asked answered : Instant) (keyId : String)
    (reply : Reply) :
    Course cache asked answered keyId reply (cache.lookup asked answered keyId reply).1
      (cache.lookup asked answered keyId reply).2 := by
  by_cases due : cache.Due asked
  · rw [lookup_of_due due]
    exact course_of_due due
  · simp only [Due, Classical.not_forall] at due
    obtain ⟨snapshot, present, usable⟩ := due
    cases known : snapshot.keys.find? keyId with
    | some key =>
        simp only [lookup, begin, present, usable, if_false, known, resume]
        exact .held present usable known
    | none =>
        have misses : cache.Misses asked keyId := ⟨snapshot, present, usable, known⟩
        cases recent : cache.forcedRecently asked with
        | true =>
            simp only [lookup, begin, present, usable, if_false, known, claimForced, recent,
              if_true, resume, keyIn]
            exact .limited misses recent
        | false =>
            have course : Course cache asked answered keyId reply _ _ :=
              course_of_claimed misses recent
            have claims : cache.claimForced asked = some (cache.claimed asked) := by
              simp only [claimForced, recent, Bool.false_eq_true, if_false, claimed]
            simpa only [lookup, begin, present, usable, if_false, known, claims, generation]
              using course

/-- A lookup that has to fetch serves the keys that its fetch brings. -/
theorem lookup_of_brings {keys : KeySet} {window : Freshness.Window} (due : cache.Due asked)
    (brings : evaluate cache.settings answered reply = .ok (keys, window))
    (known : keys.find? keyId = some key) :
    cache.lookup asked answered keyId reply =
      (.ok key,
        (cache.installed keys window).found ⟨keys, window, cache.generation + 1⟩ answered) := by
  rw [lookup_of_due due]
  rcases cache.refreshAfter_generation answered reply with
    ⟨fault, fails, _⟩ | ⟨fetched, granted, same, refreshed⟩
  · rw [brings] at fails
    cases fails
  · rw [brings] at same
    cases same
    simp only [resume, refreshed, known]

/-! ## What is known of a lookup -/

/-- One fetch was sent between two caches, and its reply brought no keys. -/
def FetchFails (before after : KeyCache) (answered : Instant) (reply : Reply)
    (fault : FetchFault) : Prop :=
  after.fetches = before.fetches + 1 ∧ evaluate before.settings answered reply = .error fault

theorem keyIn_eq_ok_iff : keyIn snapshot keyId = .ok key ↔ snapshot.keys.find? keyId = some key := by
  unfold keyIn
  cases snapshot.keys.find? keyId <;> simp

theorem keyIn_eq_error_iff {fault : KeyFault} :
    keyIn snapshot keyId = .error fault ↔
      snapshot.keys.find? keyId = none ∧ fault = .keyNotFound keyId := by
  unfold keyIn
  cases snapshot.keys.find? keyId <;> simp [eq_comm]

namespace Course

variable (course : Course cache asked answered keyId reply result after)

include course

/-- A lookup returns the key that the snapshot holds after it. -/
theorem eq_ok_iff : result = .ok key ↔ after.Holds keyId key := by
  cases course with
  | held present _ known => simp [Holds, present, known]
  | renewed _ _ known => simp [known]
  | unmatched _ _ unknown => simp [unknown]
  | fallback _ _ known =>
      simp only [Except.ok.injEq, holds_missed]
      constructor
      · rintro rfl
        exact known
      · exact known.unique
  | unavailable _ _ unknown => simp [unknown]
  | forced => simp [keyIn_eq_ok_iff]
  | forcedInVain misses =>
      obtain ⟨snapshot, present, _, unknown⟩ := misses
      simp [Holds, missed, claimed, present, unknown]
  | limited misses =>
      obtain ⟨snapshot, present, _, unknown⟩ := misses
      simp [Holds, present, unknown]

/-- At most one fetch is sent. -/
theorem fetches_le : cache.fetches ≤ after.fetches ∧ after.fetches ≤ cache.fetches + 1 := by
  cases course <;> simp [installed, missed, claimed]

/-- The snapshot stays where a fetch would fail. -/
theorem snapshot_eq_of_fails (fails : evaluate cache.settings answered reply = .error fault) :
    after.snapshot = cache.snapshot := by
  cases course with
  | held => simp
  | renewed _ brings => exact absurd (brings.symm.trans fails) (by simp)
  | unmatched _ brings => exact absurd (brings.symm.trans fails) (by simp)
  | forced _ _ brings => exact absurd (brings.symm.trans fails) (by simp)
  | fallback => rfl
  | unavailable => rfl
  | forcedInVain => rfl
  | limited => rfl

/-- A failed fetch leaves the snapshot as it was. -/
theorem snapshot_eq_of_fetchFails (fails : FetchFails cache after answered reply fault) :
    after.snapshot = cache.snapshot :=
  course.snapshot_eq_of_fails fails.2

/-- A lookup that finds no key tells so when no fetch failed, and otherwise what
the fault of its fetch was. -/
theorem error_cases :
    (∃ key, result = .ok key) ∨
      (result = .error (.keyNotFound keyId) ∧ after.Lacks keyId ∧
        ∀ fault, ¬ FetchFails cache after answered reply fault) ∨
      ∃ fault, result = .error (.fetchFailed fault) ∧
        FetchFails cache after answered reply fault := by
  cases course with
  | held => exact .inl ⟨_, rfl⟩
  | renewed => exact .inl ⟨_, rfl⟩
  | fallback => exact .inl ⟨_, rfl⟩
  | unmatched _ brings unknown =>
      refine .inr (.inl ⟨rfl, lacks_installed.mpr unknown, ?_⟩)
      rintro fault ⟨_, fails⟩
      exact absurd (brings.symm.trans fails) (by simp)
  | unavailable _ fails => exact .inr (.inr ⟨_, rfl, rfl, fails⟩)
  | @forced keys window _ _ brings =>
      cases known : keys.find? keyId with
      | some key => exact .inl ⟨key, keyIn_eq_ok_iff.mpr known⟩
      | none =>
          refine .inr (.inl ⟨keyIn_eq_error_iff.mpr ⟨known, rfl⟩, lacks_installed.mpr known, ?_⟩)
          rintro fault ⟨_, fails⟩
          exact absurd (brings.symm.trans fails) (by simp)
  | forcedInVain _ _ fails => exact .inr (.inr ⟨_, rfl, rfl, fails⟩)
  | limited misses =>
      obtain ⟨snapshot, present, _, unknown⟩ := misses
      refine .inr (.inl ⟨rfl, ⟨snapshot, present, unknown⟩, ?_⟩)
      rintro fault ⟨sent, _⟩
      omega

/-- A lookup reports an unknown key exactly when the snapshot after it lacks the
key and no fetch failed. -/
theorem eq_keyNotFound_iff : result = .error (.keyNotFound keyId) ↔
    after.Lacks keyId ∧ ∀ fault, ¬ FetchFails cache after answered reply fault := by
  rcases course.error_cases with ⟨key, served⟩ | ⟨unknown, lacks, succeeds⟩ | ⟨fault, failed, fails⟩
  · have holds := course.eq_ok_iff.mp served
    simp [served, holds.not_lacks]
  · simp [unknown, lacks, succeeds]
  · simp only [failed, Except.error.injEq, reduceCtorEq, false_iff]
    rintro ⟨_, succeeds⟩
    exact succeeds fault fails

/-- A lookup reports the fault of a fetch exactly when a fetch failed and the snapshot after
it does not hold the key. -/
theorem fetchFailed_iff : (∃ fault, result = .error (.fetchFailed fault)) ↔
    (∃ fault, FetchFails cache after answered reply fault) ∧ ∀ key, ¬ after.Holds keyId key := by
  rcases course.error_cases with ⟨key, served⟩ | ⟨unknown, _, succeeds⟩ | ⟨fault, failed, fails⟩
  · have holds := course.eq_ok_iff.mp served
    simp only [served, reduceCtorEq, exists_false, false_iff]
    rintro ⟨_, unheld⟩
    exact unheld key holds
  · simp [unknown, succeeds]
  · refine iff_of_true ⟨fault, failed⟩ ⟨⟨fault, fails⟩, fun key holds => ?_⟩
    rw [course.eq_ok_iff.mpr holds] at failed
    cases failed

end Course

/-- A lookup returns a key exactly when the snapshot after it holds the key. -/
theorem key_eq_ok_iff :
    (cache.key now keyId reply).result = .ok key ↔
      (cache.key now keyId reply).cache.Holds keyId key := by
  rw [key_eq_lookup.1, key_eq_lookup.2]
  exact (cache.lookup_course now now keyId reply).eq_ok_iff

/-- A header gets a key exactly when it names RS256 and an identifier, and the snapshot
after the lookup holds that key. -/
theorem keyForHeader_eq_ok_iff {algorithm : String} {named : Option String} :
    (cache.keyForHeader now algorithm named reply).result = .ok key ↔
      algorithm = "RS256" ∧ ∃ keyId, named = some keyId ∧ keyId ≠ "" ∧
        (cache.keyForHeader now algorithm named reply).cache.Holds keyId key := by
  unfold keyForHeader
  by_cases foreign : algorithm = "RS256"
  · cases named with
    | none => simp [foreign]
    | some keyId =>
        by_cases empty : keyId = ""
        · simp [foreign, empty]
        · simp [foreign, empty, key_eq_ok_iff]
  · simp [foreign]

end Admission.KeyCache
