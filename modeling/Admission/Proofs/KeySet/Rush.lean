import Admission.Proofs.KeySet.Coalescing
import Admission.Proofs.KeySet.Rotation

/-!
# A rush on a rotated key

Many lookups ask at once for a key that the snapshot does not have yet. Each of them reads the
snapshot, claims a forced refresh, and takes its turn to refresh or, without a claim, to read
again, in any order. One fetch is made, and the lookups find the key, except those without a
claim whose turn comes before that fetch: waiting for a running refresh is no waiting while the
lookup that claimed it has not had its turn.
-/

namespace Admission.KeyCache

/-! ## Steps of lookups -/

/-- How far a lookup has come. -/
inductive Phase where
  | asked
  /-- It has read a usable snapshot without its key. -/
  | lacking (snapshot : Snapshot)
  /-- It waits for its turn. -/
  | waiting (stage : Stage)
  | over (result : Except KeyFault RsaKey)

/-- The first step of a lookup: it reads the snapshot. -/
def read (cache : KeyCache) (now : Instant) (keyId : String) : Phase × KeyCache :=
  match cache.snapshot with
  | none => (.waiting (.refreshing 0 none), cache)
  | some snapshot =>
      if snapshot.standing now = .stale then
        (.waiting (.refreshing snapshot.generation (some snapshot)), cache)
      else
        match snapshot.keys.find? keyId with
        | some key => (.over (.ok key), cache.found snapshot now)
        | none => (.lacking snapshot, cache)

/-- The next step of a lookup that lacks its key: it claims a forced refresh. -/
def claim (cache : KeyCache) (now : Instant) (snapshot : Snapshot) : Phase × KeyCache :=
  match cache.claimForced now with
  | some claimed => (.waiting (.forcing snapshot.generation), claimed)
  | none => (.waiting .rereading, cache)

/-- The next step of a lookup. -/
def Phase.advance (cache : KeyCache) (now : Instant) (keyId : String) (reply : Reply) :
    Phase → Phase × KeyCache
  | .asked => cache.read now keyId
  | .lacking snapshot => cache.claim now snapshot
  | .waiting stage =>
      let (result, cache) := cache.resume stage now keyId reply
      (.over result, cache)
  | .over result => (.over result, cache)

/-- A cache and the lookups of one key. -/
structure Crowd where
  cache : KeyCache
  lookups : List Phase

namespace Crowd

/-- A lookup takes its next step. -/
structure Move where
  lookup : Nat
  now : Instant
  /-- What a fetch made in this step brings back. -/
  reply : Reply

def step (keyId : String) (crowd : Crowd) (move : Move) : Crowd :=
  match crowd.lookups[move.lookup]? with
  | none => crowd
  | some phase =>
      let (phase, cache) := phase.advance crowd.cache move.now keyId move.reply
      ⟨cache, crowd.lookups.set move.lookup phase⟩

/-- The crowd after moves in order. -/
def after (keyId : String) (crowd : Crowd) (moves : List Move) : Crowd :=
  moves.foldl (step keyId) crowd

/-- A number of lookups that have taken no step. -/
def gathered (cache : KeyCache) (count : Nat) : Crowd := ⟨cache, List.replicate count .asked⟩

end Crowd

variable {cache : KeyCache} {start : KeyCache} {snapshot brought : Snapshot} {keyId : String}
  {key : RsaKey} {known : Option RsaKey} {now : Instant} {reply : Reply} {phase : Phase}
  {crowd : Crowd} {move : Crowd.Move} {moves : List Crowd.Move} {lookup : Nat}

/-- A lookup alone is `key`. -/
theorem alone_eq_key (cache : KeyCache) (now : Instant) (keyId : String) (reply : Reply) :
    (Crowd.gathered cache 1).after keyId [⟨0, now, reply⟩, ⟨0, now, reply⟩, ⟨0, now, reply⟩] =
      ⟨(cache.key now keyId reply).cache, [.over (cache.key now keyId reply).result]⟩ := by
  have single (cache : KeyCache) (phase : Phase) :
      (Crowd.mk cache [phase]).step keyId ⟨0, now, reply⟩ =
        ⟨(phase.advance cache now keyId reply).2, [(phase.advance cache now keyId reply).1]⟩ := rfl
  rw [key_eq_lookup.1, key_eq_lookup.2, Crowd.gathered, Crowd.after, List.replicate_one]
  simp only [List.foldl_cons, List.foldl_nil, single, Phase.advance, read, KeyCache.lookup, begin]
  cases present : cache.snapshot with
  | none => rfl
  | some snapshot =>
      by_cases stale : snapshot.standing now = .stale
      · simp [stale]
      · cases found : snapshot.keys.find? keyId with
        | some key => simp [stale, found, resume]
        | none =>
            cases free : cache.claimForced now <;>
              simp [stale, found, free, claim]

/-! ## A rotation -/

/-- The snapshot stays usable and lacks the key. Whenever the endpoint is asked it publishes the
key, and what it publishes stays fresh. -/
structure Rotation (settings : Settings) (snapshot : Snapshot) (keyId : String)
    (moves : List Crowd.Move) : Prop where
  lacks : snapshot.keys.find? keyId = none
  usable : ∀ move ∈ moves, snapshot.standing move.now ≠ .stale
  published : ∀ move ∈ moves, move.reply.Publishes settings move.now keyId
  lasting : ∀ move ∈ moves, ∀ keys window,
    evaluate settings move.now move.reply = .ok (keys, window) →
      ∀ other ∈ moves, Snapshot.standing ⟨keys, window, snapshot.generation + 1⟩ other.now = .fresh

theorem Rotation.tail {settings : Settings}
    (rotation : Rotation settings snapshot keyId (move :: moves)) :
    Rotation settings snapshot keyId moves where
  lacks := rotation.lacks
  usable other among := rotation.usable other (List.mem_cons_of_mem _ among)
  published other among := rotation.published other (List.mem_cons_of_mem _ among)
  lasting other among keys window brings last member :=
    rotation.lasting other (List.mem_cons_of_mem _ among) keys window brings last
      (List.mem_cons_of_mem _ member)

namespace Crowd

/-- It is the turn of a lookup to read again, and the snapshot is still the one of before. -/
def Hasty (snapshot : Snapshot) (lookup : Nat) (crowd : Crowd) (move : Move) : Prop :=
  move.lookup = lookup ∧ crowd.lookups[lookup]? = some (.waiting .rereading) ∧
    crowd.cache.snapshot = some snapshot

/-- In some move the lookup reads again while the snapshot is still the one of before. -/
def Overtakes (keyId : String) (snapshot : Snapshot) (lookup : Nat) (crowd : Crowd) :
    List Move → Prop
  | [] => False
  | move :: moves =>
      crowd.Hasty snapshot lookup move ∨
        (crowd.step keyId move).Overtakes keyId snapshot lookup moves

/-- The lookup has not found its key. -/
def Refused (keyId : String) (lookup : Nat) (crowd : Crowd) : Prop :=
  crowd.lookups[lookup]? = some (.over (.error (.keyNotFound keyId)))

end Crowd

/-- Where a lookup can be, given the key that the cache has by now. -/
inductive Phase.Expected (snapshot : Snapshot) (keyId : String) (known : Option RsaKey) :
    Phase → Prop
  | asked : Expected snapshot keyId known .asked
  | lacking : Expected snapshot keyId known (.lacking snapshot)
  | forcing : Expected snapshot keyId known (.waiting (.forcing snapshot.generation))
  | rereading : Expected snapshot keyId known (.waiting .rereading)
  | refused : Expected snapshot keyId known (.over (.error (.keyNotFound keyId)))
  | served {key : RsaKey} (got : known = some key) :
      Expected snapshot keyId known (.over (.ok key))

/-- A fetch takes no lookup out of its place. -/
theorem Phase.Expected.supplied (expected : phase.Expected snapshot keyId none) :
    phase.Expected snapshot keyId known := by
  cases expected with
  | asked => exact .asked
  | lacking => exact .lacking
  | forcing => exact .forcing
  | rereading => exact .rereading
  | refused => exact .refused
  | served got => cases got

/-- Whether a lookup has tried to claim a refresh. -/
def Phase.decided : Phase → Bool
  | .asked | .lacking _ => false
  | .waiting _ | .over _ => true

namespace Crowd

/-- Nothing has been fetched. Once some lookup has tried to claim the refresh, one of them is
about to make it. -/
structure Unsupplied (start : KeyCache) (snapshot : Snapshot) (keyId : String) (crowd : Crowd) :
    Prop where
  present : crowd.cache.snapshot = some snapshot
  settings : crowd.cache.settings = start.settings
  fetches : crowd.cache.fetches = start.fetches
  background : crowd.cache.background = start.background
  expected : ∀ phase ∈ crowd.lookups, phase.Expected snapshot keyId none
  claimed : (crowd.cache.lastForced = none ∧ ∀ phase ∈ crowd.lookups, phase.decided = false) ∨
    .waiting (.forcing snapshot.generation) ∈ crowd.lookups

/-- One fetch has brought a snapshot with the key, fresh for the moves to come. -/
structure Supplied (start : KeyCache) (snapshot : Snapshot) (keyId : String) (moves : List Move)
    (brought : Snapshot) (key : RsaKey) (crowd : Crowd) : Prop where
  present : crowd.cache.snapshot = some brought
  generation : brought.generation = snapshot.generation + 1
  known : brought.keys.find? keyId = some key
  fresh : ∀ move ∈ moves, brought.standing move.now = .fresh
  fetches : crowd.cache.fetches = start.fetches + 1
  background : crowd.cache.background = start.background
  expected : ∀ phase ∈ crowd.lookups, phase.Expected snapshot keyId (some key)

end Crowd

/-! ## One step -/

/-- A usable snapshot without the key is remembered as such. -/
theorem read_of_lacks (present : cache.snapshot = some snapshot)
    (usable : snapshot.standing now ≠ .stale) (lacks : snapshot.keys.find? keyId = none) :
    cache.read now keyId = (.lacking snapshot, cache) := by
  simp only [read, present, usable, if_false, lacks]

/-- A key in a fresh snapshot is found at once. -/
theorem read_of_fresh (present : cache.snapshot = some brought)
    (fresh : brought.standing now = .fresh) (found : brought.keys.find? keyId = some key) :
    cache.read now keyId = (.over (.ok key), cache) := by
  simp [read, present, fresh, found, KeyCache.found]

/-- A claim is free, or one was made before. -/
theorem claim_cases (cache : KeyCache) (now : Instant) (snapshot : Snapshot) :
    cache.claim now snapshot = (.waiting (.forcing snapshot.generation), cache.claimed now) ∨
      (cache.claim now snapshot = (.waiting .rereading, cache) ∧ cache.lastForced ≠ none) := by
  unfold claim claimForced
  cases recent : cache.forcedRecently now with
  | false => exact .inl rfl
  | true =>
      refine .inr ⟨rfl, fun unforced => ?_⟩
      simp [forcedRecently, unforced] at recent

/-- A refresh that observed an older generation takes a fresh snapshot as it is. -/
theorem refreshAfter_of_fresh {observed : Nat} (present : cache.snapshot = some brought)
    (newer : brought.generation ≠ observed) (fresh : brought.standing now = .fresh) :
    cache.refreshAfter observed now reply = (.ok brought, cache) := by
  simp [refreshAfter, replaced?, present, newer, fresh]

/-- A lookup that reads again finds what the snapshot has. -/
theorem advance_rereading (present : cache.snapshot = some snapshot) :
    (Phase.waiting .rereading).advance cache now keyId reply =
      (.over (keyIn snapshot keyId), cache) := by
  simp only [Phase.advance, resume, present]

/-- A forced refresh finds the key of a fresh snapshot that came before it. -/
theorem advance_forcing_of_fresh {observed : Nat} (present : cache.snapshot = some brought)
    (newer : brought.generation ≠ observed) (fresh : brought.standing now = .fresh) :
    (Phase.waiting (.forcing observed)).advance cache now keyId reply =
      (.over (keyIn brought keyId), cache) := by
  have shared : cache.refreshAfter observed now reply = (.ok brought, cache) :=
    refreshAfter_of_fresh present newer fresh
  simp only [Phase.advance, resume, shared]

/-- A forced refresh of the snapshot at hand installs what its fetch brings. -/
theorem advance_forcing_of_brings (keyId : String) {keys : KeySet} {window : Freshness.Window}
    (present : cache.snapshot = some snapshot)
    (brings : evaluate cache.settings now reply = .ok (keys, window)) :
    (Phase.waiting (.forcing snapshot.generation)).advance cache now keyId reply =
      (.over (keyIn ⟨keys, window, snapshot.generation + 1⟩ keyId),
        cache.installed keys window) := by
  have current := generation_of_snapshot present
  rcases cache.refreshAfter_generation now reply with
    ⟨fault, fails, _⟩ | ⟨keys', window', brought, installed⟩
  · rw [brings] at fails
    cases fails
  · rw [brings] at brought
    cases brought
    rw [current] at installed
    simp only [Phase.advance, resume, installed]

namespace Crowd

/-- A move makes the step of its lookup. -/
theorem step_eq {next : Phase} (placed : crowd.lookups[move.lookup]? = some phase)
    (advance : phase.advance crowd.cache move.now keyId move.reply = (next, cache)) :
    crowd.step keyId move = ⟨cache, crowd.lookups.set move.lookup next⟩ := by
  rw [step, placed]
  dsimp only
  rw [advance]

/-- Where lookups can be once one of them has taken a step. -/
theorem expected_set {next : Phase}
    (expected : ∀ phase ∈ crowd.lookups, phase.Expected snapshot keyId known)
    (nextExpected : next.Expected snapshot keyId known) :
    ∀ phase ∈ crowd.lookups.set lookup next, phase.Expected snapshot keyId known := by
  intro phase among
  rcases List.mem_or_eq_of_mem_set among with earlier | rfl
  · exact expected phase earlier
  · exact nextExpected

/-- A lookup that takes a step leaves the others where they are. -/
theorem mem_set_of_ne {next other : Phase} (placed : crowd.lookups[lookup]? = some phase)
    (among : other ∈ crowd.lookups) (different : phase ≠ other) :
    other ∈ crowd.lookups.set lookup next := by
  obtain ⟨place, found⟩ := List.mem_iff_getElem?.mp among
  have apart : lookup ≠ place := by
    rintro rfl
    rw [placed] at found
    exact different (Option.some.inj found)
  exact List.mem_iff_getElem?.mpr ⟨place, by rw [List.getElem?_set_ne apart, found]⟩

/-- The crowd before or after the fetch. -/
def Proceeds (start : KeyCache) (snapshot : Snapshot) (keyId : String) (moves : List Move)
    (crowd : Crowd) : Prop :=
  crowd.Unsupplied start snapshot keyId ∨
    ∃ brought key, crowd.Supplied start snapshot keyId moves brought key

/-- A move leaves the crowd before or after the fetch, and refuses nobody but a lookup whose turn
to read again comes too early. -/
structure Continues (start : KeyCache) (snapshot : Snapshot) (keyId : String) (moves : List Move)
    (crowd : Crowd) (move : Move) : Prop where
  proceeds : (crowd.step keyId move).Proceeds start snapshot keyId moves
  refused : ∀ lookup, (crowd.step keyId move).Refused keyId lookup ↔
    crowd.Refused keyId lookup ∨ crowd.Hasty snapshot lookup move

/-- A step that leaves the cache as it is, of a lookup that is not about to fetch. -/
theorem Unsupplied.keep {next : Phase} (unsupplied : crowd.Unsupplied start snapshot keyId)
    (placed : crowd.lookups[lookup]? = some phase) (expected : next.Expected snapshot keyId none)
    (idle : phase ≠ .waiting (.forcing snapshot.generation))
    (undecided : crowd.cache.lastForced = none → phase.decided = false → next.decided = false) :
    Unsupplied start snapshot keyId ⟨crowd.cache, crowd.lookups.set lookup next⟩ where
  present := unsupplied.present
  settings := unsupplied.settings
  fetches := unsupplied.fetches
  background := unsupplied.background
  expected := expected_set unsupplied.expected expected
  claimed := by
    rcases unsupplied.claimed with ⟨unforced, all⟩ | forcing
    · refine .inl ⟨unforced, fun other among => ?_⟩
      rcases List.mem_or_eq_of_mem_set among with earlier | rfl
      · exact all other earlier
      · exact undecided unforced (all phase (List.mem_of_getElem? placed))
    · exact .inr (mem_set_of_ne placed forcing idle)

/-- What a move comes to, by what its lookup and the cache come to. -/
theorem continues_of_advance {next : Phase} (placed : crowd.lookups[move.lookup]? = some phase)
    (advance : phase.advance crowd.cache move.now keyId move.reply = (next, cache))
    (proceeds : Proceeds start snapshot keyId moves ⟨cache, crowd.lookups.set move.lookup next⟩)
    (refused : next = .over (.error (.keyNotFound keyId)) ↔
      phase = .over (.error (.keyNotFound keyId)) ∨
        (phase = .waiting .rereading ∧ crowd.cache.snapshot = some snapshot)) :
    crowd.Continues start snapshot keyId moves move := by
  have within : move.lookup < crowd.lookups.length := (List.getElem?_eq_some_iff.mp placed).1
  have stepped := step_eq placed advance
  constructor
  · rwa [stepped]
  · intro lookup
    rw [stepped]
    unfold Refused Hasty
    by_cases same : move.lookup = lookup
    · subst same
      rw [List.getElem?_set_self within, placed]
      simpa using refused
    · simp [List.getElem?_set_ne same, same]

/-- A step before the fetch, which may be the one that fetches. -/
theorem Unsupplied.continues (unsupplied : crowd.Unsupplied start snapshot keyId)
    (rotation : Rotation start.settings snapshot keyId (move :: moves))
    (placed : crowd.lookups[move.lookup]? = some phase) :
    crowd.Continues start snapshot keyId moves move := by
  cases unsupplied.expected phase (List.mem_of_getElem? placed) with
  | asked =>
      have usable := rotation.usable move List.mem_cons_self
      exact continues_of_advance placed (read_of_lacks unsupplied.present usable rotation.lacks)
        (.inl (unsupplied.keep placed .lacking (by simp) fun _ _ => rfl)) (by simp)
  | lacking =>
      rcases claim_cases crowd.cache move.now snapshot with advance | ⟨advance, forced⟩
      · have within : move.lookup < crowd.lookups.length := (List.getElem?_eq_some_iff.mp placed).1
        have claimed : Unsupplied start snapshot keyId ⟨crowd.cache.claimed move.now,
            crowd.lookups.set move.lookup (.waiting (.forcing snapshot.generation))⟩ :=
          { unsupplied with
            expected := expected_set unsupplied.expected .forcing
            claimed := .inr (List.mem_set within _) }
        exact continues_of_advance placed advance (.inl claimed) (by simp)
      · exact continues_of_advance placed advance (.inl (unsupplied.keep placed .rereading (by simp)
          fun unforced => absurd unforced forced)) (by simp)
  | forcing =>
      obtain ⟨keys, window, key, brings, found⟩ :=
        (rotation.published move List.mem_cons_self).brings
      have lasting := rotation.lasting move List.mem_cons_self keys window brings
      have advance := advance_forcing_of_brings keyId unsupplied.present
        (unsupplied.settings ▸ brings)
      rw [keyIn_eq_ok_iff.mpr found] at advance
      have supplied : Supplied start snapshot keyId moves
          ⟨keys, window, snapshot.generation + 1⟩ key ⟨crowd.cache.installed keys window,
            crowd.lookups.set move.lookup (.over (.ok key))⟩ :=
        { present := by rw [installed, generation_of_snapshot unsupplied.present]
          generation := rfl
          known := found
          fresh := fun other among => lasting other (List.mem_cons_of_mem _ among)
          fetches := congrArg (· + 1) unsupplied.fetches
          background := unsupplied.background
          expected := expected_set (fun phase among => (unsupplied.expected phase among).supplied)
            (.served rfl) }
      exact continues_of_advance placed advance (.inr ⟨_, key, supplied⟩) (by simp)
  | rereading =>
      have advance : (Phase.waiting .rereading).advance crowd.cache move.now keyId move.reply =
          (_, crowd.cache) :=
        advance_rereading unsupplied.present
      rw [keyIn_eq_error_iff.mpr ⟨rotation.lacks, rfl⟩] at advance
      exact continues_of_advance placed advance
        (.inl (unsupplied.keep placed .refused (by simp) fun _ undecided => by cases undecided))
        (by simp [unsupplied.present])
  | refused =>
      exact continues_of_advance placed rfl
        (.inl (unsupplied.keep placed .refused (by simp) fun _ undecided => undecided)) (by simp)
  | served got => cases got

/-- A step after the fetch. -/
theorem Supplied.continues
    (supplied : crowd.Supplied start snapshot keyId (move :: moves) brought key)
    (placed : crowd.lookups[move.lookup]? = some phase) :
    crowd.Continues start snapshot keyId moves move := by
  have fresh := supplied.fresh move List.mem_cons_self
  have newer : brought.generation ≠ snapshot.generation := by
    rw [supplied.generation]
    exact Nat.succ_ne_self _
  have replaced : crowd.cache.snapshot ≠ some snapshot := by
    rw [supplied.present]
    rintro same
    exact newer (congrArg Snapshot.generation (Option.some.inj same))
  have moved {cache : KeyCache} {next : Phase} (present : cache.snapshot = crowd.cache.snapshot)
      (fetches : cache.fetches = crowd.cache.fetches)
      (background : cache.background = crowd.cache.background)
      (expected : next.Expected snapshot keyId (some key)) :
      Proceeds start snapshot keyId moves ⟨cache, crowd.lookups.set move.lookup next⟩ :=
    .inr ⟨brought, key, {
      present := present.trans supplied.present
      generation := supplied.generation
      known := supplied.known
      fresh := fun other among => supplied.fresh other (List.mem_cons_of_mem _ among)
      fetches := fetches.trans supplied.fetches
      background := background.trans supplied.background
      expected := expected_set supplied.expected expected }⟩
  cases supplied.expected phase (List.mem_of_getElem? placed) with
  | asked =>
      exact continues_of_advance placed (read_of_fresh supplied.present fresh supplied.known)
        (moved rfl rfl rfl (.served rfl)) (by simp)
  | lacking =>
      rcases claim_cases crowd.cache move.now snapshot with advance | ⟨advance, _⟩
      · exact continues_of_advance placed advance (moved rfl rfl rfl .forcing) (by simp)
      · exact continues_of_advance placed advance (moved rfl rfl rfl .rereading) (by simp)
  | forcing =>
      have advance : (Phase.waiting (.forcing snapshot.generation)).advance crowd.cache move.now
          keyId move.reply = (_, crowd.cache) :=
        advance_forcing_of_fresh supplied.present newer fresh
      rw [keyIn_eq_ok_iff.mpr supplied.known] at advance
      exact continues_of_advance placed advance (moved rfl rfl rfl (.served rfl)) (by simp)
  | rereading =>
      have advance : (Phase.waiting .rereading).advance crowd.cache move.now keyId move.reply =
          (_, crowd.cache) :=
        advance_rereading supplied.present
      rw [keyIn_eq_ok_iff.mpr supplied.known] at advance
      exact continues_of_advance placed advance (moved rfl rfl rfl (.served rfl))
        (by simp [replaced])
  | refused => exact continues_of_advance placed rfl (moved rfl rfl rfl .refused) (by simp)
  | served got => exact continues_of_advance placed rfl (moved rfl rfl rfl (.served got)) (by simp)

/-! ## All steps -/

theorem Proceeds.continues (proceeds : crowd.Proceeds start snapshot keyId (move :: moves))
    (rotation : Rotation start.settings snapshot keyId (move :: moves)) :
    crowd.Continues start snapshot keyId moves move := by
  cases placed : crowd.lookups[move.lookup]? with
  | some phase =>
      rcases proceeds with unsupplied | ⟨brought, key, supplied⟩
      · exact unsupplied.continues rotation placed
      · exact supplied.continues placed
  | none =>
      -- There is no such lookup, and nothing happens.
      have unmoved : crowd.step keyId move = crowd := by rw [Crowd.step, placed]
      have nobody (lookup : Nat) : ¬ crowd.Hasty snapshot lookup move := by
        rintro ⟨rfl, waits, _⟩
        rw [placed] at waits
        cases waits
      constructor
      · rw [unmoved]
        rcases proceeds with unsupplied | ⟨brought, key, supplied⟩
        · exact .inl unsupplied
        · exact .inr ⟨brought, key, { supplied with
            fresh := fun other among => supplied.fresh other (List.mem_cons_of_mem _ among) }⟩
      · intro lookup
        rw [unmoved]
        simp [nobody lookup]

/-- Along a run the crowd stays before or after its one fetch, and those are refused whose turn
to read again comes before it. -/
theorem Proceeds.after (proceeds : crowd.Proceeds start snapshot keyId moves)
    (rotation : Rotation start.settings snapshot keyId moves) :
    (crowd.after keyId moves).Proceeds start snapshot keyId [] ∧
      ∀ lookup, (crowd.after keyId moves).Refused keyId lookup ↔
        crowd.Refused keyId lookup ∨ crowd.Overtakes keyId snapshot lookup moves := by
  induction moves generalizing crowd with
  | nil => exact ⟨proceeds, fun lookup => by simp [Crowd.after, Overtakes]⟩
  | cons move moves inductionHypothesis =>
      obtain ⟨stepped, refused⟩ := proceeds.continues rotation
      obtain ⟨run, later⟩ := inductionHypothesis stepped rotation.tail
      refine ⟨run, fun lookup => ?_⟩
      rw [Overtakes, ← or_assoc, ← refused]
      exact later lookup

theorem length_step : (crowd.step keyId move).lookups.length = crowd.lookups.length := by
  unfold step
  split
  · rfl
  · exact List.length_set

theorem length_after : (crowd.after keyId moves).lookups.length = crowd.lookups.length := by
  induction moves generalizing crowd with
  | nil => rfl
  | cons move moves inductionHypothesis => exact inductionHypothesis.trans length_step

/-- At first nothing is fetched and nobody has claimed a refresh. -/
theorem unsupplied_gathered (present : cache.snapshot = some snapshot)
    (unforced : cache.lastForced = none) (count : Nat) :
    (gathered cache count).Unsupplied cache snapshot keyId where
  present := present
  settings := rfl
  fetches := rfl
  background := rfl
  expected phase among := by
    rw [List.eq_of_mem_replicate among]
    exact .asked
  claimed := by
    refine .inl ⟨unforced, fun phase among => ?_⟩
    rw [List.eq_of_mem_replicate among]
    rfl

/-- Every lookup is over. -/
def Settled (crowd : Crowd) : Prop := ∀ phase ∈ crowd.lookups, ∃ result, phase = .over result

/-- Lookups are not all over before the fetch. -/
theorem Unsupplied.not_settled (unsupplied : crowd.Unsupplied start snapshot keyId)
    (nonempty : 0 < crowd.lookups.length) : ¬ crowd.Settled := by
  intro settled
  rcases unsupplied.claimed with ⟨_, undecided⟩ | forcing
  · obtain ⟨phase, among⟩ := List.exists_mem_of_length_pos nonempty
    obtain ⟨result, rfl⟩ := settled phase among
    cases undecided _ among
  · obtain ⟨result, shape⟩ := settled _ forcing
    cases shape

namespace Proceeds

variable (proceeds : crowd.Proceeds start snapshot keyId moves)

include proceeds

theorem fetches_le : crowd.cache.fetches ≤ start.fetches + 1 := by
  rcases proceeds with unsupplied | ⟨_, _, supplied⟩
  · exact unsupplied.fetches ▸ Nat.le_succ _
  · exact Nat.le_of_eq supplied.fetches

theorem fetches_eq (nonempty : 0 < crowd.lookups.length) (settled : crowd.Settled) :
    crowd.cache.fetches = start.fetches + 1 := by
  rcases proceeds with unsupplied | ⟨_, _, supplied⟩
  · exact absurd settled (unsupplied.not_settled nonempty)
  · exact supplied.fetches

theorem background_eq : crowd.cache.background = start.background := by
  rcases proceeds with unsupplied | ⟨_, _, supplied⟩
  · exact unsupplied.background
  · exact supplied.background

/-- A lookup that is over and was not refused has the key that the cache holds. -/
theorem served {result : Except KeyFault RsaKey}
    (ended : crowd.lookups[lookup]? = some (.over result))
    (accepted : ¬ crowd.Refused keyId lookup) :
    ∃ key, result = .ok key ∧ crowd.cache.Holds keyId key := by
  have among := List.mem_of_getElem? ended
  rcases proceeds with unsupplied | ⟨brought, key, supplied⟩
  · cases unsupplied.expected _ among with
    | refused => exact absurd ended accepted
    | served got => cases got
  · cases supplied.expected _ among with
    | refused => exact absurd ended accepted
    | served got =>
        cases got
        exact ⟨_, rfl, brought, supplied.present, supplied.known⟩

end Proceeds
end Crowd

/-- In a rush on a key that was rotated in, the lookups make at most one fetch, and one when
they are all over. The lookups whose turn to read again comes before that fetch report an unknown
key, whoever has claimed the refresh meanwhile; every other lookup finds its key. -/
theorem rush_refuses_hasty (present : cache.snapshot = some snapshot)
    (unforced : cache.lastForced = none)
    (rotation : Rotation cache.settings snapshot keyId moves) (count : Nat) :
    let crowd := Crowd.gathered cache count
    let final := crowd.after keyId moves
    final.lookups.length = count ∧ final.cache.fetches ≤ cache.fetches + 1 ∧
      final.cache.background = cache.background ∧
      (0 < count → final.Settled → final.cache.fetches = cache.fetches + 1) ∧
      ∀ lookup result, final.lookups[lookup]? = some (.over result) →
        (crowd.Overtakes keyId snapshot lookup moves → result = .error (.keyNotFound keyId)) ∧
          (¬ crowd.Overtakes keyId snapshot lookup moves →
            ∃ key, result = .ok key ∧ final.cache.Holds keyId key) := by
  intro crowd final
  have gathered : crowd.Unsupplied cache snapshot keyId :=
    Crowd.unsupplied_gathered present unforced count
  obtain ⟨proceeds, refused⟩ := Crowd.Proceeds.after (.inl gathered) rotation
  have length : final.lookups.length = count :=
    Crowd.length_after.trans List.length_replicate
  have untouched (lookup : Nat) : ¬ crowd.Refused keyId lookup := by
    intro refused
    cases List.eq_of_mem_replicate (List.mem_of_getElem? refused)
  refine ⟨length, proceeds.fetches_le, proceeds.background_eq,
    fun nonempty => proceeds.fetches_eq (length ▸ nonempty), fun lookup result ended => ⟨?_, ?_⟩⟩
  · intro overtakes
    have known := (refused lookup).mpr (.inr overtakes)
    rw [Crowd.Refused, ended] at known
    cases known
    rfl
  · intro patient
    refine proceeds.served ended fun early => ?_
    exact ((refused lookup).mp early).elim (untouched lookup) patient

namespace Rush

/-- The keys that the endpoint publishes after the rotation. -/
def published : KeySet := .listed [("key-a", Outage.key), ("key-b", Outage.key)]

/-- The lookups take their steps in this order, all in one instant. -/
def ordered (lookups : List Nat) : List Crowd.Move :=
  lookups.map fun lookup => ⟨lookup, Outage.fetched, Rotated.reply⟩

theorem brings : evaluate .standard Outage.fetched Rotated.reply =
    .ok (published, Queue.brought.window) :=
  evaluate_publishing rfl (by decide) (by decide)

theorem rotation (lookups : List Nat) :
    Rotation .standard Queue.brought "key-b" (ordered lookups) where
  lacks := rfl
  usable move among := by
    obtain ⟨_, _, rfl⟩ := List.mem_map.mp among
    have usable : Queue.brought.standing Outage.fetched ≠ .stale := by decide
    exact usable
  published move among := by
    obtain ⟨_, _, rfl⟩ := List.mem_map.mp among
    exact Rotated.publishes Outage.fetched rfl
  lasting move among keys window brought other member := by
    obtain ⟨_, _, rfl⟩ := List.mem_map.mp among
    obtain ⟨_, _, rfl⟩ := List.mem_map.mp member
    cases brings.symm.trans brought
    rfl

/-- The cache once the first lookup has claimed a refresh. -/
def claimed : KeyCache := Outage.stocked.claimed Outage.fetched

theorem advance_forcing : (Phase.waiting (.forcing 1)).advance claimed Outage.fetched "key-b"
    Rotated.reply = (.over (.ok Outage.key), claimed.installed published Queue.brought.window) := by
  have present : claimed.snapshot = some Queue.brought := rfl
  have found : published.find? "key-b" = some Outage.key := rfl
  have advance := advance_forcing_of_brings "key-b" present brings
  rwa [keyIn_eq_ok_iff.mpr found] at advance

/-- Both lookups wait for their turn, the first of them to refresh. -/
theorem after_claims (rest : List Nat) :
    (Crowd.gathered Outage.stocked 2).after "key-b" (ordered ([0, 0, 1, 1] ++ rest)) =
      (Crowd.mk claimed [.waiting (.forcing 1), .waiting .rereading]).after "key-b"
        (ordered rest) := rfl

/-- The turn of the first lookup, wherever the second is. -/
theorem step_forcing (second : Phase) :
    (Crowd.mk claimed [.waiting (.forcing 1), second]).step "key-b"
        ⟨0, Outage.fetched, Rotated.reply⟩ =
      ⟨claimed.installed published Queue.brought.window, [.over (.ok Outage.key), second]⟩ :=
  Crowd.step_eq rfl advance_forcing

/-- The first lookup has its turn first. -/
theorem after_orderly :
    (Crowd.gathered Outage.stocked 2).after "key-b" (ordered [0, 0, 1, 1, 0, 1]) =
      ⟨claimed.installed published Queue.brought.window,
        [.over (.ok Outage.key), .over (.ok Outage.key)]⟩ := by
  refine (after_claims [0, 1]).trans ?_
  simp only [Crowd.after, ordered, List.map_cons, List.map_nil, List.foldl_cons, List.foldl_nil,
    step_forcing]
  rfl

/-- The second lookup has its turn first. -/
theorem after_hasty :
    (Crowd.gathered Outage.stocked 2).after "key-b" (ordered [0, 0, 1, 1, 1, 0]) =
      ⟨claimed.installed published Queue.brought.window,
        [.over (.ok Outage.key), .over (.error (.keyNotFound "key-b"))]⟩ := by
  have reread : (Crowd.mk claimed [.waiting (.forcing 1), .waiting .rereading]).step "key-b"
      ⟨1, Outage.fetched, Rotated.reply⟩ =
        ⟨claimed, [.waiting (.forcing 1), .over (.error (.keyNotFound "key-b"))]⟩ := rfl
  refine (after_claims [1, 0]).trans ?_
  simp only [Crowd.after, ordered, List.map_cons, List.map_nil, List.foldl_cons, List.foldl_nil,
    reread, step_forcing]

end Rush

/-- Two lookups of a rotated key both find it, with one fetch, when the one that has claimed the
refresh has its turn first. -/
theorem orderly_rush_served :
    Outage.stocked.snapshot = some Queue.brought ∧ Outage.stocked.lastForced = none ∧
      Rotation .standard Queue.brought "key-b" (Rush.ordered [0, 0, 1, 1, 0, 1]) ∧
      ((Crowd.gathered Outage.stocked 2).after "key-b"
        (Rush.ordered [0, 0, 1, 1, 0, 1])).cache.fetches = 2 ∧
      ∀ lookup < 2, ¬ (Crowd.gathered Outage.stocked 2).Overtakes "key-b" Queue.brought lookup
        (Rush.ordered [0, 0, 1, 1, 0, 1]) := by
  have rotation := Rush.rotation [0, 0, 1, 1, 0, 1]
  have present : Outage.stocked.snapshot = some Queue.brought := rfl
  obtain ⟨_, _, _, fetches, results⟩ := rush_refuses_hasty present rfl rotation 2
  rw [Rush.after_orderly] at fetches results
  have settled : Crowd.Settled ⟨Rush.claimed.installed Rush.published Queue.brought.window,
      [.over (.ok Outage.key), .over (.ok Outage.key)]⟩ := by
    simp [Crowd.Settled]
  refine ⟨present, rfl, rotation, ?_, fun lookup few overtakes => ?_⟩
  · rw [Rush.after_orderly]
    exact fetches (by decide) settled
  · have served : [Phase.over (.ok Outage.key), .over (.ok Outage.key)][lookup]? =
        some (.over (.ok Outage.key)) := by
      rcases lookup with _ | _ | lookup
      · rfl
      · rfl
      · omega
    cases (results lookup _ served).1 overtakes

/-- A lookup that has its turn before the one that has claimed the refresh is refused, although
the endpoint publishes its key all along. -/
theorem hasty_lookup_refused :
    Outage.stocked.snapshot = some Queue.brought ∧ Outage.stocked.lastForced = none ∧
      Rotation .standard Queue.brought "key-b" (Rush.ordered [0, 0, 1, 1, 1, 0]) ∧
      ((Crowd.gathered Outage.stocked 2).after "key-b" (Rush.ordered [0, 0, 1, 1, 1, 0])).lookups =
        [.over (.ok Outage.key), .over (.error (.keyNotFound "key-b"))] :=
  ⟨rfl, rfl, Rush.rotation _, congrArg Crowd.lookups Rush.after_hasty⟩

end Admission.KeyCache
