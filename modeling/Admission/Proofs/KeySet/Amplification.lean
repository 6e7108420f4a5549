import Admission.Proofs.KeySet.Lookup
import Admission.Proofs.KeySet.Publication

/-!
# How many fetches lookups can cause

Whoever chooses the identifiers that are looked up chooses when fetches are sent,
but not how many. One follows from the cold cache, others from snapshots that have
become stale, and the rest are forced. `Paced` counts the last two kinds against the
two clocks that space them.
-/

namespace Admission.KeyCache

/-- A lookup as it is made. -/
structure Call where
  /-- When the lookup begins. -/
  asked : Instant
  /-- When its fetch is answered. -/
  answered : Instant
  keyId : String
  reply : Reply

/-- The cache after a call. -/
def called (cache : KeyCache) (call : Call) : KeyCache :=
  (cache.lookup call.asked call.answered call.keyId call.reply).2

/-- The cache after calls one after the other. -/
def run (cache : KeyCache) (calls : List Call) : KeyCache := calls.foldl called cache

/-- A call outside leap seconds to whose fetch the endpoint answers with keys that are
valid for a span at least. -/
structure Call.Served (settings : Settings) (validity : Span) (call : Call) : Prop where
  askedRegular : call.asked.isLeap = false
  answeredRegular : call.answered.isLeap = false
  ordered : call.asked ≤ call.answered
  brings : ∃ keys window, evaluate settings call.answered call.reply = .ok (keys, window) ∧
    validity ≤ window.expiry.since call.answered

/-- What a cache has fetched from the instant of its first call to that of its last: once
for a start, for each stale snapshot a validity after the one before it, and for each
forced refresh an interval after the one before it. -/
structure Paced (settings : Settings) (validity : Span) (origin now : Instant) (cache : KeyCache)
    (stale forced : Nat) : Prop where
  configured : cache.settings = settings
  quiet : cache.background = none
  fetches : cache.fetches = 1 + stale + forced
  begun : origin.millis ≤ now.millis
  elapsed : origin.position + stale * validity.nanoseconds ≤ now.position
  valid : ∃ snapshot, cache.snapshot = some snapshot ∧ snapshot.window.expiry.isLeap = false ∧
    origin.position + stale * validity.nanoseconds + validity.nanoseconds ≤
      snapshot.window.expiry.position
  unforced : cache.lastForced = none → forced = 0
  spaced : ∀ last, cache.lastForced = some last → origin.millis ≤ last ∧ last ≤ now.millis ∧
    origin.millis + (forced - 1 : Int) * settings.forcedInterval.wholeMillis ≤ last

section

variable {settings : Settings} {validity : Span} {origin now : Instant} {cache : KeyCache}
  {call : Call} {calls : List Call} {stale forced : Nat}

/-- Without fetching ahead a lookup starts nothing in the background. -/
theorem found_of_quiet {snapshot : Snapshot} (quiet : cache.settings.prefetches = false) :
    cache.found snapshot now = cache := by
  simp [found, startBackground, quiet]

namespace Call.Served

variable (served : call.Served settings validity)

include served

/-- A fetch for a served call does not fail. -/
theorem not_fails {fault : FetchFault} :
    evaluate settings call.answered call.reply ≠ .error fault := by
  obtain ⟨keys, window, brings, _⟩ := served.brings
  rw [brings]
  simp

/-- What a fetch for a served call brings is valid for long enough. -/
theorem expiry {keys : KeySet} {window : Freshness.Window}
    (brings : evaluate settings call.answered call.reply = .ok (keys, window)) :
    window.expiry.isLeap = false ∧
      call.answered.position + validity.nanoseconds ≤ window.expiry.position := by
  obtain ⟨_, _, same, long⟩ := served.brings
  rw [brings] at same
  cases same
  obtain ⟨_, _, _, granted, _⟩ := evaluate_eq_ok_iff.mp brings
  have regular := Freshness.responseWindow?_regular granted served.answeredRegular
  rw [Span.le_def, Instant.since_nanoseconds regular served.answeredRegular] at long
  exact ⟨regular, by omega⟩

/-- The first call of a cold cache fetches once. -/
theorem paced_cold (quiet : settings.prefetches = false) :
    Paced settings validity call.asked call.asked ((cold settings).called call) 0 0 := by
  have order := Instant.position_le_of_le served.askedRegular served.ordered
  have installs {keys : KeySet} {window : Freshness.Window}
      (brings : evaluate settings call.answered call.reply = .ok (keys, window)) :
      Paced settings validity call.asked call.asked ((cold settings).installed keys window) 0 0 := by
    obtain ⟨regular, ends⟩ := served.expiry brings
    exact {
      configured := rfl
      quiet := rfl
      fetches := rfl
      begun := le_refl _
      elapsed := by simp
      valid := ⟨_, rfl, regular, by simp only; omega⟩
      unforced := fun _ => rfl
      spaced := fun _ claimed => nomatch claimed }
  have course := (cold settings).lookup_course call.asked call.answered call.keyId call.reply
  rw [called]
  generalize (cold settings).lookup call.asked call.answered call.keyId call.reply = outcome
    at course
  obtain ⟨result, after⟩ := outcome
  simp only at course ⊢
  cases course with
  | held present => cases present
  | renewed _ brings =>
      rw [found_of_quiet (by exact quiet)]
      exact installs brings
  | unmatched _ brings => exact installs brings
  | fallback _ fails => exact absurd fails served.not_fails
  | unavailable _ fails => exact absurd fails served.not_fails
  | forced misses => obtain ⟨_, present, _⟩ := misses; cases present
  | forcedInVain misses => obtain ⟨_, present, _⟩ := misses; cases present
  | limited misses => obtain ⟨_, present, _⟩ := misses; cases present

end Call.Served

namespace Paced

/-- Time may pass without a call. -/
theorem later (paced : Paced settings validity origin now cache stale forced) {next : Instant}
    (regular : now.isLeap = false) (order : now ≤ next) :
    Paced settings validity origin next cache stale forced where
  configured := paced.configured
  quiet := paced.quiet
  fetches := paced.fetches
  begun := paced.begun.trans (Instant.millis_le_of_le regular order)
  elapsed := paced.elapsed.trans (Instant.position_le_of_le regular order)
  valid := paced.valid
  unforced := paced.unforced
  spaced := fun last forced =>
    have ⟨after, before, since⟩ := paced.spaced last forced
    ⟨after, before.trans (Instant.millis_le_of_le regular order), since⟩

/-- A fetch for a stale snapshot comes a validity after the fetch that brought it. -/
theorem renewed (paced : Paced settings validity origin call.asked cache stale forced)
    (served : call.Served settings validity) (due : cache.Due call.asked) {keys : KeySet}
    {window : Freshness.Window}
    (brings : evaluate settings call.answered call.reply = .ok (keys, window)) :
    Paced settings validity origin call.asked (cache.installed keys window) (stale + 1) forced := by
  obtain ⟨snapshot, present, regular, ends⟩ := paced.valid
  obtain ⟨nextRegular, nextEnds⟩ := served.expiry brings
  have order := Instant.position_le_of_le served.askedRegular served.ordered
  have passed : snapshot.window.expiry.position ≤ call.asked.position := by
    refine Instant.position_le_of_le regular ?_
    have stale := due snapshot present
    unfold Snapshot.standing at stale
    split at stale
    · assumption
    · split at stale <;> cases stale
  have counted : ((stale + 1 : Nat) : Int) * validity.nanoseconds =
      stale * validity.nanoseconds + validity.nanoseconds := by
    rw [Int.natCast_succ, Int.add_mul, Int.one_mul]
  have fetches := paced.fetches
  exact {
    configured := paced.configured
    quiet := paced.quiet
    fetches := by
      simp only [installed]
      omega
    begun := paced.begun
    elapsed := by omega
    valid := ⟨_, rfl, nextRegular, by simp only; omega⟩
    unforced := paced.unforced
    spaced := paced.spaced }

/-- Another forced refresh is free only an interval after the one before it. -/
theorem interval_of_free (paced : Paced settings validity origin now cache stale forced)
    (free : cache.forcedRecently now = false) :
    origin.millis + (forced : Int) * settings.forcedInterval.wholeMillis ≤ now.millis := by
  cases claimed : cache.lastForced with
  | none =>
      have begun := paced.begun
      simpa [paced.unforced claimed] using begun
  | some last =>
      obtain ⟨after, _, since⟩ := paced.spaced last claimed
      have counted : (forced : Int) * settings.forcedInterval.wholeMillis =
          (forced - 1 : Int) * settings.forcedInterval.wholeMillis +
            settings.forcedInterval.wholeMillis := by
        rw [Int.sub_mul]
        omega
      -- An interval as long as the longest span is never over.
      have apart := Instant.millis_sub_lt now origin
      simp only [forcedRecently, claimed, paced.configured, Duration.wholeMillis_span,
        decide_eq_false_iff_not] at free
      omega

/-- A forced refresh comes an interval after the one before it. -/
theorem forcing (paced : Paced settings validity origin call.asked cache stale forced)
    (served : call.Served settings validity) (free : cache.forcedRecently call.asked = false)
    {keys : KeySet} {window : Freshness.Window}
    (brings : evaluate settings call.answered call.reply = .ok (keys, window)) :
    Paced settings validity origin call.asked ((cache.claimed call.asked).installed keys window)
      stale (forced + 1) := by
  obtain ⟨regular, ends⟩ := served.expiry brings
  have order := Instant.position_le_of_le served.askedRegular served.ordered
  have elapsed := paced.elapsed
  have fetches := paced.fetches
  have interval := paced.interval_of_free free
  exact {
    configured := paced.configured
    quiet := paced.quiet
    fetches := by
      simp only [installed, claimed]
      omega
    begun := paced.begun
    elapsed := paced.elapsed
    valid := ⟨_, rfl, regular, by simp only; omega⟩
    unforced := fun none => nomatch none
    spaced := by
      rintro last ⟨rfl⟩
      exact ⟨paced.begun, le_refl _, by simpa using interval⟩ }

/-- A served call fetches only where one of the two clocks allows it. -/
theorem called (paced : Paced settings validity origin now cache stale forced)
    (quiet : settings.prefetches = false) (regular : now.isLeap = false)
    (order : now ≤ call.asked) (served : call.Served settings validity) :
    ∃ stale forced, Paced settings validity origin call.asked (cache.called call) stale forced := by
  have paced := paced.later regular order
  have quiet : cache.settings.prefetches = false := by rw [paced.configured, quiet]
  have course := cache.lookup_course call.asked call.answered call.keyId call.reply
  rw [KeyCache.called]
  generalize cache.lookup call.asked call.answered call.keyId call.reply = outcome at course
  obtain ⟨result, after⟩ := outcome
  simp only at course ⊢
  have configured := paced.configured
  cases course with
  | held =>
      rw [found_of_quiet quiet]
      exact ⟨stale, forced, paced⟩
  | renewed due brings =>
      rw [found_of_quiet (by exact quiet)]
      rw [configured] at brings
      exact ⟨stale + 1, forced, paced.renewed served due brings⟩
  | unmatched due brings =>
      rw [configured] at brings
      exact ⟨stale + 1, forced, paced.renewed served due brings⟩
  | fallback _ fails =>
      rw [configured] at fails
      exact absurd fails served.not_fails
  | unavailable _ fails =>
      rw [configured] at fails
      exact absurd fails served.not_fails
  | forced _ free brings =>
      rw [configured] at brings
      exact ⟨stale, forced + 1, paced.forcing served free brings⟩
  | forcedInVain _ _ fails =>
      rw [configured] at fails
      exact absurd fails served.not_fails
  | limited => exact ⟨stale, forced, paced⟩

/-- Served calls keep the count against the two clocks. -/
theorem run (quiet : settings.prefetches = false) {latest : Call}
    (paced : Paced settings validity origin latest.asked cache stale forced)
    (ordered : (latest :: calls).Pairwise fun earlier later => earlier.asked ≤ later.asked)
    (served : ∀ call ∈ latest :: calls, call.Served settings validity) :
    ∃ stale forced, Paced settings validity origin
      ((latest :: calls).getLast (List.cons_ne_nil _ _)).asked (cache.run calls) stale forced := by
  induction calls generalizing latest cache stale forced with
  | nil => exact ⟨stale, forced, paced⟩
  | cons call calls inductionHypothesis =>
      obtain ⟨first, rest⟩ := List.pairwise_cons.mp ordered
      have regular := (served latest List.mem_cons_self).askedRegular
      obtain ⟨stale, forced, next⟩ := paced.called quiet regular (first call List.mem_cons_self)
        (served call (List.mem_cons_of_mem _ List.mem_cons_self))
      exact inductionHypothesis next rest fun other member =>
        served other (List.mem_cons_of_mem _ member)

/-- The two clocks bound the count. -/
theorem fetches_le (paced : Paced settings validity origin now cache stale forced)
    (positive : 0 < validity.nanoseconds) (spaced : 0 < settings.forcedInterval.wholeMillis) :
    (cache.fetches : Int) ≤ 2 + (now.position - origin.position) / validity.nanoseconds +
      (now.millis - origin.millis) / settings.forcedInterval.wholeMillis := by
  have interval : (0 : Int) < settings.forcedInterval.wholeMillis := Int.natCast_pos.mpr spaced
  have elapsed := paced.elapsed
  have fetches := paced.fetches
  have begun := paced.begun
  have renewals : (stale : Int) ≤ (now.position - origin.position) / validity.nanoseconds :=
    (Int.le_ediv_iff_mul_le positive).mpr (by omega)
  have forcings : (forced : Int) - 1 ≤
      (now.millis - origin.millis) / settings.forcedInterval.wholeMillis := by
    cases claimed : cache.lastForced with
    | none =>
        have quotient := Int.ediv_nonneg (Int.sub_nonneg.mpr begun) interval.le
        rw [paced.unforced claimed]
        omega
    | some last =>
        obtain ⟨_, before, since⟩ := paced.spaced last claimed
        exact (Int.le_ediv_iff_mul_le interval).mpr (by omega)
  omega

end Paced

/-- Lookups of a cold cache that does not fetch ahead, made one after the other outside
leap seconds, at an endpoint that always answers with keys valid for a span at least,
send at most two fetches and one more for every such span and for every interval
between forced refreshes, whichever identifiers they ask for. None of them leaves a
fetch to the background. -/
theorem fetches_run_le (quiet : settings.prefetches = false)
    (spaced : 0 < settings.forcedInterval.wholeMillis) (positive : 0 < validity.nanoseconds)
    {first last : Call} (starts : calls.head? = some first) (ends : calls.getLast? = some last)
    (ordered : calls.Pairwise fun earlier later => earlier.asked ≤ later.asked)
    (served : ∀ call ∈ calls, call.Served settings validity) :
    (∀ (cache : KeyCache) (now : Instant) (keyId : String) (reply : Reply),
        (cache.key now keyId reply).cache = cache.called ⟨now, now, keyId, reply⟩) ∧
      (((cold settings).run calls).fetches : Int) ≤
        2 + (last.asked.since first.asked).nanoseconds / validity.nanoseconds +
          (last.asked.millis - first.asked.millis) / settings.forcedInterval.wholeMillis ∧
      ((cold settings).run calls).background = none := by
  refine ⟨fun _ _ _ _ => key_eq_lookup.2, ?_⟩
  cases calls with
  | nil => cases starts
  | cons call calls =>
      cases starts
      have same : last = (first :: calls).getLast (List.cons_ne_nil _ _) := by
        rw [List.getLast?_eq_some_getLast (List.cons_ne_nil _ _)] at ends
        exact (Option.some.inj ends).symm
      have begins := served first List.mem_cons_self
      obtain ⟨stale, forced, paced⟩ := (begins.paced_cold quiet).run quiet ordered served
      rw [← same] at paced
      have regular : last.asked.isLeap = false :=
        (served last (List.mem_of_getLast? ends)).askedRegular
      rw [Instant.since_nanoseconds regular begins.askedRegular]
      exact ⟨paced.fetches_le positive spaced, paced.quiet⟩

end

namespace Flood

/-- A cache that does not fetch ahead. -/
def settings : Settings := { Settings.standard with prefetches := false }

/-- What the endpoint answers. -/
def reply : Reply := .publishing [] [("key-a", ⟨[35], [3]⟩)]

theorem start_valid : Instant.Valid 1700000000 0 := by decide

/-- When the first two identifiers are asked for. -/
def start : Instant := ⟨1700000000, 0, start_valid⟩

/-- When the third one is asked for. -/
def half : Instant := ⟨1700000030, 0, by decide⟩

/-- Calls for identifiers that are not published. -/
def calls : List Call :=
  [⟨start, start, "key-b", reply⟩, ⟨start, start, "key-c", reply⟩, ⟨half, half, "key-d", reply⟩]

/-- What the endpoint brings at the start. -/
theorem brings_start :
    evaluate settings start reply = .ok (⟨[("key-a", ⟨[35], [3]⟩)]⟩,
      ⟨⟨1700000900, 0, by decide⟩, ⟨1700000450, 0, by decide⟩⟩) :=
  evaluate_publishing rfl (by decide) (by decide)

/-- What the endpoint brings half a minute later. -/
theorem brings_half :
    evaluate settings half reply = .ok (⟨[("key-a", ⟨[35], [3]⟩)]⟩,
      ⟨⟨1700000930, 0, by decide⟩, ⟨1700000480, 0, by decide⟩⟩) :=
  evaluate_publishing rfl (by decide) (by decide)

theorem served : ∀ call ∈ calls, call.Served settings ⟨900000000000⟩ := by
  intro call member
  simp only [calls, List.mem_cons, List.not_mem_nil, or_false] at member
  rcases member with rfl | rfl | rfl
  · exact ⟨rfl, rfl, by decide, _, _, brings_start, by decide⟩
  · exact ⟨rfl, rfl, by decide, _, _, brings_start, by decide⟩
  · exact ⟨rfl, rfl, by decide, _, _, brings_half, by decide⟩

end Flood

/-- Three unknown identifiers, the last one an interval after the others, cause three
fetches, and the bound allows no more. -/
theorem flood_fetches_le :
    ((cold Flood.settings).run Flood.calls).fetches = 3 ∧
      (((cold Flood.settings).run Flood.calls).fetches : Int) ≤
        2 + (Flood.half.since Flood.start).nanoseconds / 900000000000 +
          (Flood.half.millis - Flood.start.millis) / Flood.settings.forcedInterval.wholeMillis ∧
      2 + (Flood.half.since Flood.start).nanoseconds / 900000000000 +
        (Flood.half.millis - Flood.start.millis) / Flood.settings.forcedInterval.wholeMillis = 3 := by
  have ordered : Flood.calls.Pairwise fun earlier later => earlier.asked ≤ later.asked := by
    simp only [Flood.calls, List.pairwise_cons]
    decide
  have bounded := fetches_run_le rfl (by decide) (by decide) rfl rfl ordered Flood.served
  exact ⟨by decide +kernel, bounded.2.1, by decide⟩

end Admission.KeyCache
