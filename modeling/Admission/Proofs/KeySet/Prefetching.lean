import Mathlib.Data.List.Chain
import Admission.Proofs.KeySet.History
import Admission.Proofs.KeySet.Window

/-!
# Keys fetched ahead

A cache that fetches ahead and is asked often enough never makes a caller wait again: a
window leaves half of its length behind the instant from which it is fetched ahead, so a
lookup that comes within half a validity of the one before it finds the snapshot usable.
Either that snapshot was still fresh then, or it has been replaced since. `Provided` carries
this from lookup to lookup.
-/

namespace Admission.KeyCache

/-- A lookup with the refresh that it may leave to the background. -/
structure Visit where
  /-- When the lookup begins. -/
  asked : Instant
  /-- When a fetch of the lookup itself is answered. -/
  answered : Instant
  reply : Reply
  /-- When the fetch in the background is answered. -/
  settled : Instant
  backgroundReply : Reply

/-- The cache after a visit whose background refresh, if there is one, has come to its end. -/
def visited (keyId : String) (cache : KeyCache) (visit : Visit) : KeyCache :=
  (cache.lookup visit.asked visit.answered keyId visit.reply).2.settle visit.settled
    visit.backgroundReply

/-- The cache after visits one after the other. -/
def afterVisits (keyId : String) (cache : KeyCache) (visits : List Visit) : KeyCache :=
  visits.foldl (visited keyId) cache

/-- A fetch is answered with usable keys, an identifier among them, that are valid for a span
at least. -/
def Grants (settings : Settings) (validity : Span) (keyId : String) (answered : Instant)
    (reply : Reply) : Prop :=
  ∃ keys window key, evaluate settings answered reply = .ok (keys, window) ∧
    keys.find? keyId = some key ∧ validity ≤ window.expiry.since answered

/-- A visit outside leap seconds to whose fetches the endpoint answers with a key. -/
structure Visit.Granted (settings : Settings) (validity : Span) (keyId : String) (visit : Visit) :
    Prop where
  askedRegular : visit.asked.isLeap = false
  answeredRegular : visit.answered.isLeap = false
  settledRegular : visit.settled.isLeap = false
  answeredAfter : visit.asked ≤ visit.answered
  settledAfter : visit.answered ≤ visit.settled
  grants : Grants settings validity keyId visit.answered visit.reply
  grantsAhead : Grants settings validity keyId visit.settled visit.backgroundReply

/-- A visit begins once the one before it is over, and within half a validity of it. -/
def Visit.Follows (validity : Span) (earlier later : Visit) : Prop :=
  earlier.settled ≤ later.asked ∧ later.asked.since earlier.asked ≤ validity.half

/-- A visit finds the snapshot fresh or to be fetched ahead, and is served the key that it
holds without a fetch. -/
structure FromMemory (keyId : String) (cache : KeyCache) (visit : Visit) : Prop where
  usable : cache.standing visit.asked = .fresh ∨ cache.standing visit.asked = .prefetch
  served : ∃ key, cache.Holds keyId key ∧
    (cache.lookup visit.asked visit.answered keyId visit.reply).1 = .ok key
  snapshot : (cache.lookup visit.asked visit.answered keyId visit.reply).2.snapshot =
    cache.snapshot
  fetches : (cache.lookup visit.asked visit.answered keyId visit.reply).2.fetches =
    cache.fetches

/-- A snapshot with a key that leaves half a validity behind the instant from which it is
fetched ahead. -/
structure Roomy (validity : Span) (keyId : String) (snapshot : Snapshot) : Prop where
  known : ∃ key, snapshot.keys.find? keyId = some key
  expiryRegular : snapshot.window.expiry.isLeap = false
  prefetchRegular : snapshot.window.prefetchAt.isLeap = false
  room : snapshot.window.prefetchAt.position + validity.half.nanoseconds ≤
    snapshot.window.expiry.position

/-- A cache with nothing under way whose snapshot lasts for half a validity. -/
structure Provided (settings : Settings) (validity : Span) (keyId : String) (now : Instant)
    (cache : KeyCache) : Prop where
  configured : cache.settings = settings
  quiet : cache.background = none
  lasts : ∃ snapshot, cache.snapshot = some snapshot ∧ Roomy validity keyId snapshot ∧
    now.position + validity.half.nanoseconds < snapshot.window.expiry.position

section

variable {settings : Settings} {validity : Span} {keyId : String} {now settled : Instant}
  {cache : KeyCache} {snapshot : Snapshot} {reply : Reply} {visit last : Visit}
  {first : Visit} {visits : List Visit}

/-! ## What a granted fetch brings -/

/-- A granted fetch brings a snapshot with room that lasts for the validity. -/
theorem Grants.brings (grants : Grants settings validity keyId now reply)
    (regular : now.isLeap = false) :
    ∃ keys window key, evaluate settings now reply = .ok (keys, window) ∧
      keys.find? keyId = some key ∧
      now.position + validity.nanoseconds ≤ window.expiry.position ∧
      ∀ generation, Roomy validity keyId ⟨keys, window, generation⟩ := by
  obtain ⟨keys, window, key, brings, known, long⟩ := grants
  obtain ⟨_, _, _, granted, _⟩ := evaluate_eq_ok_iff.mp brings
  obtain ⟨expiryRegular, prefetchRegular, length, ends, middle⟩ :=
    Freshness.responseWindow?_positions regular granted
  rw [Span.le_def, Instant.since_nanoseconds expiryRegular regular] at long
  refine ⟨keys, window, key, brings, known, by omega, fun generation => ?_⟩
  exact ⟨⟨key, known⟩, expiryRegular, prefetchRegular, by simp only [Span.half]; omega⟩

/-- A background refresh of the generation at hand installs what its fetch brings. -/
theorem settle_of_brings {keys : KeySet} {window : Freshness.Window}
    (waits : cache.background = some cache.generation)
    (brings : evaluate cache.settings settled reply = .ok (keys, window)) :
    cache.settle settled reply = { cache.installed keys window with background := none } := by
  rcases cache.refreshAfter_generation settled reply with
    ⟨fault, fails, _⟩ | ⟨fetched, granted, same, refreshed⟩
  · rw [brings] at fails
    cases fails
  · rw [brings] at same
    cases same
    simp only [settle, waits, refreshed]

/-! ## From one lookup to the next -/

/-- Before its expiry a snapshot is to be fetched ahead, or it is fresh and has not reached
the instant for that yet. -/
theorem standing_cases (unexpired : now < snapshot.window.expiry) :
    snapshot.standing now = .prefetch ∨
      snapshot.standing now = .fresh ∧ now < snapshot.window.prefetchAt := by
  unfold Snapshot.standing
  rw [if_neg (not_le.mpr unexpired)]
  split
  · exact .inl rfl
  · exact .inr ⟨rfl, not_le.mp ‹_›⟩

/-- After a key was found in a snapshot with room, the background refresh over, there is a
snapshot that lasts for half a validity. -/
theorem Roomy.provided (roomy : Roomy validity keyId snapshot)
    (configured : cache.settings = settings) (quiet : cache.background = none)
    (present : cache.snapshot = some snapshot) (unexpired : now < snapshot.window.expiry)
    (prefetches : settings.prefetches = true) (positive : 0 < validity.nanoseconds)
    (regular : now.isLeap = false) (settledRegular : settled.isLeap = false)
    (order : now ≤ settled) (grants : Grants settings validity keyId settled reply) :
    Provided settings validity keyId now ((cache.found snapshot now).settle settled reply) := by
  rcases standing_cases unexpired with prefetch | ⟨fresh, early⟩
  · have started : cache.found snapshot now =
        { cache with background := some snapshot.generation } := by
      simp [found, prefetch, startBackground, configured, prefetches, quiet]
    have waits : { cache with background := some snapshot.generation }.background =
        some cache.generation := by
      rw [KeyCache.generation, present]
    obtain ⟨keys, window, _, brings, _, ends, roomyNext⟩ := grants.brings settledRegular
    have later := Instant.position_le_of_le regular order
    rw [← configured] at brings
    rw [started, settle_of_brings waits brings]
    refine ⟨configured, rfl, _, rfl, roomyNext _, ?_⟩
    simp only [Span.half]
    omega
  · have untouched : (cache.found snapshot now).settle settled reply = cache := by
      simp [found, fresh, settle, quiet]
    have room := roomy.room
    rw [Instant.lt_iff_position_lt regular roomy.prefetchRegular] at early
    rw [untouched]
    exact ⟨configured, quiet, snapshot, present, roomy, by omega⟩

/-- A snapshot that lasts from some instant lasts from an earlier one. -/
theorem Provided.earlier {before : Instant}
    (provided : Provided settings validity keyId now cache) (regular : before.isLeap = false)
    (order : before ≤ now) : Provided settings validity keyId before cache := by
  obtain ⟨snapshot, present, roomy, lasts⟩ := provided.lasts
  have earlier := Instant.position_le_of_le regular order
  exact ⟨provided.configured, provided.quiet, snapshot, present, roomy, by omega⟩

/-- A snapshot that lasts is not expired for a visit within half a validity. -/
theorem Provided.unexpired (provided : Provided settings validity keyId last.asked cache)
    (follows : Visit.Follows validity last visit) (lastRegular : last.asked.isLeap = false)
    (regular : visit.asked.isLeap = false) :
    ∃ snapshot key, cache.snapshot = some snapshot ∧ Roomy validity keyId snapshot ∧
      snapshot.keys.find? keyId = some key ∧ visit.asked < snapshot.window.expiry := by
  obtain ⟨snapshot, present, roomy, lasts⟩ := provided.lasts
  obtain ⟨key, known⟩ := roomy.known
  have gap := follows.2
  rw [Span.le_def, Instant.since_nanoseconds regular lastRegular] at gap
  refine ⟨snapshot, key, present, roomy, known, ?_⟩
  rw [Instant.lt_iff_position_lt regular roomy.expiryRegular]
  omega

/-- A visit within half a validity of the one before it is served from memory, and leaves a
snapshot that lasts for the next one. -/
theorem Provided.next (provided : Provided settings validity keyId last.asked cache)
    (prefetches : settings.prefetches = true) (positive : 0 < validity.nanoseconds)
    (lastRegular : last.asked.isLeap = false) (granted : visit.Granted settings validity keyId)
    (follows : Visit.Follows validity last visit) :
    FromMemory keyId cache visit ∧
      Provided settings validity keyId visit.asked (cache.visited keyId visit) := by
  obtain ⟨snapshot, key, present, roomy, known, unexpired⟩ :=
    provided.unexpired follows lastRegular granted.askedRegular
  have standing : cache.standing visit.asked = snapshot.standing visit.asked := by
    rw [KeyCache.standing, present]
  have usable : snapshot.standing visit.asked = .fresh ∨
      snapshot.standing visit.asked = .prefetch :=
    (standing_cases unexpired).elim .inr fun fresh => .inl fresh.1
  have looked : cache.lookup visit.asked visit.answered keyId visit.reply =
      (.ok key, cache.found snapshot visit.asked) := by
    have unstale : snapshot.standing visit.asked ≠ .stale := by
      rcases usable with fresh | prefetch <;> simp [*]
    simp only [lookup, begin, present, unstale, if_false, known, resume]
  constructor
  · exact {
      usable := by rwa [standing]
      served := ⟨key, ⟨snapshot, present, known⟩, by rw [looked]⟩
      snapshot := by rw [looked, found_snapshot]
      fetches := by rw [looked, found_fetches] }
  · rw [visited, looked]
    exact roomy.provided provided.configured provided.quiet present unexpired prefetches positive
      granted.askedRegular granted.settledRegular
      (granted.answeredAfter.trans granted.settledAfter) granted.grantsAhead

/-- Visits that follow one another are all served from memory. -/
theorem Provided.run (provided : Provided settings validity keyId last.asked cache)
    (prefetches : settings.prefetches = true) (positive : 0 < validity.nanoseconds)
    (granted : ∀ visit ∈ last :: visits, visit.Granted settings validity keyId)
    (spaced : (last :: visits).IsChain (Visit.Follows validity)) {earlier later : List Visit}
    (split : visits = earlier ++ visit :: later) :
    FromMemory keyId (cache.afterVisits keyId earlier) visit := by
  induction earlier generalizing visits last cache with
  | nil =>
      subst split
      exact (provided.next prefetches positive (granted last List.mem_cons_self).askedRegular
        (granted visit (by simp)) (List.isChain_cons_cons.mp spaced).1).1
  | cons next earlier inductionHypothesis =>
      subst split
      obtain ⟨follows, rest⟩ := List.isChain_cons_cons.mp spaced
      have among : ∀ other ∈ next :: (earlier ++ visit :: later),
          other.Granted settings validity keyId :=
        fun other member => granted other (List.mem_cons_of_mem _ member)
      have after := (provided.next prefetches positive
        (granted last List.mem_cons_self).askedRegular (among next List.mem_cons_self) follows).2
      exact inductionHypothesis after among rest rfl

/-- The first visit of a cold cache fetches once, and leaves a snapshot that lasts for the
next visit. -/
theorem provided_first (prefetches : settings.prefetches = true)
    (positive : 0 < validity.nanoseconds) (granted : first.Granted settings validity keyId) :
    (∃ key, ((cold settings).lookup first.asked first.answered keyId first.reply).1 = .ok key) ∧
      ((cold settings).lookup first.asked first.answered keyId first.reply).2.fetches = 1 ∧
      Provided settings validity keyId first.asked ((cold settings).visited keyId first) := by
  obtain ⟨keys, window, key, brings, known, ends, roomy⟩ :=
    granted.grants.brings granted.answeredRegular
  have due : (cold settings).Due first.asked := due_of_none rfl
  have looked := lookup_of_brings due brings known
  have unexpired : first.answered < window.expiry := by
    have regular : window.expiry.isLeap = false := (roomy 1).expiryRegular
    rw [Instant.lt_iff_position_lt granted.answeredRegular regular]
    omega
  have provided : Provided settings validity keyId first.answered
      ((cold settings).visited keyId first) := by
    rw [visited, looked]
    exact (roomy 1).provided rfl rfl rfl unexpired prefetches positive granted.answeredRegular
      granted.settledRegular granted.settledAfter granted.grantsAhead
  rw [looked, found_fetches]
  exact ⟨⟨key, rfl⟩, rfl, provided.earlier granted.askedRegular granted.answeredAfter⟩

/-- A cache that fetches ahead, at an endpoint whose every answer brings a key for a validity
at least, is asked for the key outside leap seconds, each time within half the validity of
the time before. Then the first visit alone waits for a fetch, and every later one is served
from memory. A lookup that takes no time is `key`. -/
theorem later_visits_fromMemory (prefetches : settings.prefetches = true)
    (positive : 0 < validity.nanoseconds)
    (granted : ∀ visit ∈ first :: visits, visit.Granted settings validity keyId)
    (spaced : (first :: visits).IsChain (Visit.Follows validity)) :
    (∀ (cache : KeyCache) (now : Instant) (reply : Reply),
        (cache.key now keyId reply).result = (cache.lookup now now keyId reply).1 ∧
          (cache.key now keyId reply).cache = (cache.lookup now now keyId reply).2) ∧
      (∃ key, ((cold settings).lookup first.asked first.answered keyId first.reply).1 = .ok key) ∧
      ((cold settings).lookup first.asked first.answered keyId first.reply).2.fetches = 1 ∧
      ∀ earlier visit later, visits = earlier ++ visit :: later →
        FromMemory keyId ((cold settings).afterVisits keyId (first :: earlier)) visit := by
  obtain ⟨served, fetches, provided⟩ :=
    provided_first prefetches positive (granted first List.mem_cons_self)
  refine ⟨fun _ _ _ => key_eq_lookup, served, fetches, fun earlier visit later split => ?_⟩
  exact provided.run prefetches positive granted spaced split

end

namespace Busy

/-- The keys that the endpoint publishes, valid for a quarter of an hour. -/
def reply : Reply := .publishing [] [("key-a", Outage.key)]

/-- A visit at an instant, at which every fetch is answered as well. -/
def visit (instant : Instant) : Visit := ⟨instant, instant, reply, instant, reply⟩

theorem middle_valid : Instant.Valid 1700000450 0 := by decide

/-- The middle of the first window. -/
def middle : Instant := ⟨1700000450, 0, middle_valid⟩

theorem granted (instant : Instant) (regular : instant.isLeap = false)
    {window : Freshness.Window}
    (brings : Freshness.responseWindow? [] instant (.seconds 900) (.seconds 86400) = some window)
    (long : ⟨900000000000⟩ ≤ window.expiry.since instant) :
    (visit instant).Granted .standard ⟨900000000000⟩ "key-a" := by
  have grants : Grants .standard ⟨900000000000⟩ "key-a" instant reply :=
    ⟨_, window, Outage.key, evaluate_publishing brings (by decide) (by decide), rfl, long⟩
  exact ⟨regular, regular, regular, le_refl _, le_refl _, grants, grants⟩

end Busy

/-- A visit at the expiry of the first snapshot is served from memory, for the visit before it
had the keys fetched ahead. -/
theorem expired_visit_fromMemory :
    Outage.stocked.standing Outage.expired = .stale ∧
      FromMemory "key-a" ((cold .standard).afterVisits "key-a"
          [Busy.visit Outage.fetched, Busy.visit Busy.middle]) (Busy.visit Outage.expired) := by
  have granted : ∀ visit ∈ [Busy.visit Outage.fetched, Busy.visit Busy.middle,
      Busy.visit Outage.expired], visit.Granted .standard ⟨900000000000⟩ "key-a" := by
    intro visit among
    simp only [List.mem_cons, List.not_mem_nil, or_false] at among
    rcases among with rfl | rfl | rfl
    · exact Busy.granted Outage.fetched rfl rfl (by decide)
    · exact Busy.granted Busy.middle rfl rfl (by decide)
    · exact Busy.granted Outage.expired rfl rfl (by decide)
  have spaced : [Busy.visit Outage.fetched, Busy.visit Busy.middle,
      Busy.visit Outage.expired].IsChain (Visit.Follows ⟨900000000000⟩) :=
    .cons_cons ⟨by decide, by decide⟩ (.cons_cons ⟨by decide, by decide⟩ (.singleton _))
  refine ⟨rfl, ?_⟩
  exact (later_visits_fromMemory rfl (by decide) granted spaced).2.2.2
    [Busy.visit Busy.middle] (Busy.visit Outage.expired) [] rfl

end Admission.KeyCache
