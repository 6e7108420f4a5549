import Admission.Proofs.Webhook.Spacing

/-!
# Replays of signed requests

Whether a signed request is admitted at most once. It is in every history exactly
when no timestamp that can be sent reopens. Outside leap seconds this is a matter of
lengths: the time a nonce is remembered must be longer than twice the skew and the
time that bodies may take to arrive. Where bodies may take any time, only a skew of
nothing protects. The standard settings remember a nonce for exactly twice the skew,
and admit a request with a timestamp ahead of the clock a second time, however fast
its body arrives.
-/

namespace Admission.Webhook

namespace Settings

variable {settings : Settings}

/-- The parts of a request that its signature covers, as verification reads them. -/
def signedParts? (settings : Settings) (request : Request) : Option SignedParts :=
  match Header.required request.headers settings.timestampHeader,
    Header.required request.headers settings.nonceHeader with
  | .present timestamp, .present nonce =>
      some ⟨request.method, request.path, timestamp, nonce, request.body.bytes⟩
  | _, _ => none

theorem signedParts?_of_checks {reading : Reading} {asked : Instant} {request : Request}
    (checks : reading.Checks settings asked request) :
    settings.signedParts? request = some (reading.parts request) := by
  have timestamp := Header.required_eq_present_iff.mpr checks.timestampField
  have nonce := Header.required_eq_present_iff.mpr checks.nonceField
  simp only [signedParts?, timestamp, nonce, Reading.parts, checks.body]

/-- The signed request of an admitted call: the name of its secret and what its
signature covers. -/
def signed (settings : Settings) (admitted : Admitted) : String × Option SignedParts :=
  (admitted.secretName, settings.signedParts? admitted.request)

/-- No history whose admitted calls have their timestamps and timings among some admits a signed
request twice. -/
def AdmitsOnce (settings : Settings) (among : Instant → Timing → Prop) : Prop :=
  ∀ (start final : Moment) (events : List Event), start.validator.settings = settings →
    start.validator.InMemory → Steps start events final →
    (∀ admitted ∈ admissions events, among admitted.timestamp admitted.timing) →
    ((admissions events).map settings.signed).Nodup

/-- Some timestamp that can be sent reopens, with timings among some. -/
def Reopenable (settings : Settings) (lifetime : Span) (among : Instant → Timing → Prop) : Prop :=
  ∃ (value : Bytes) (rawTimestamp : String) (timestamp : Instant) (first again : Timing),
    Header.ReadsAs value rawTimestamp ∧ timestamp? rawTimestamp = some timestamp ∧
    Reopens settings lifetime timestamp first again ∧
    among timestamp first ∧ among timestamp again

end Settings

variable {settings : Settings} {lifetime : Span} {among : Instant → Timing → Prop}
  {timestamp : Instant} {first again : Timing}

/-- Admitted calls with one signed request agree in secret, nonce and timestamp. -/
theorem eq_of_signed_eq {first later : Admitted} {reading other : Reading}
    {firstLifetime laterLifetime : Span} {expiry renewal : Instant}
    (grounds : first.Grounds settings reading firstLifetime expiry)
    (laterGrounds : later.Grounds settings other laterLifetime renewal)
    (same : settings.signed first = settings.signed later) :
    first.secretName = later.secretName ∧ first.nonce = later.nonce ∧
      first.timestamp = later.timestamp := by
  simp only [Settings.signed, Settings.signedParts?_of_checks grounds.checks,
    Settings.signedParts?_of_checks laterGrounds.checks, Reading.parts, Prod.mk.injEq,
    Option.some.injEq, SignedParts.mk.injEq] at same
  obtain ⟨sameScope, _, _, sameText, sameNonce, _⟩ := same
  refine ⟨sameScope, by rw [grounds.nonce_eq, laterGrounds.nonce_eq, sameNonce], ?_⟩
  have denoted := grounds.checks.timestamp
  rw [sameText, laterGrounds.checks.timestamp] at denoted
  rw [grounds.timestamp_eq, laterGrounds.timestamp_eq, Option.some.inj denoted]

/-- Where no timestamp reopens, a signed request is admitted once. -/
theorem admitsOnce_of_not_reopenable (effective : settings.effectiveLifetime? = some lifetime)
    (closed : ¬ settings.Reopenable lifetime among) : settings.AdmitsOnce among := by
  rintro start final events rfl memory steps within
  rw [List.Nodup, List.pairwise_map]
  refine (steps.spaced memory).imp_of_mem ?_
  intro first later firstMember laterMember spaced same
  -- One signed request means one nonce and one timestamp, so that the spacing applies.
  obtain ⟨_, _, _, firstGrounds⟩ := steps.grounds memory first firstMember
  obtain ⟨_, _, _, laterGrounds⟩ := steps.grounds memory later laterMember
  obtain ⟨sameScope, sameNonce, sameTimestamp⟩ := eq_of_signed_eq firstGrounds laterGrounds same
  obtain ⟨reading, _, _, grounds, passed⟩ := spaced sameScope sameNonce
  obtain rfl := Option.some.inj (effective.symm.trans grounds.effective)
  obtain rfl := Option.some.inj (effective.symm.trans laterGrounds.effective)
  obtain ⟨value, _, reads⟩ := grounds.checks.timestampField
  exact closed ⟨value, reading.rawTimestamp, first.timestamp, first.timing, later.timing, reads,
    by rw [grounds.checks.timestamp, grounds.timestamp_eq],
    reopens_of_grounds grounds laterGrounds passed sameTimestamp, within first firstMember,
    sameTimestamp ▸ within later laterMember⟩

/-- A draft that carries a timestamp, given as it is sent and as it reads. -/
def Draft.carrying (value : Bytes) (rawTimestamp : String) (timestamp : Instant) : Draft :=
  ⟨"POST", "/", value, rawTimestamp, timestamp, Bytes.ofText "nonce", "nonce", []⟩

theorem Draft.carrying_sendable {value : Bytes} {rawTimestamp : String}
    (reads : Header.ReadsAs value rawTimestamp)
    (denotes : timestamp? rawTimestamp = some timestamp) :
    (Draft.carrying value rawTimestamp timestamp).Sendable settings :=
  ⟨reads, denotes, Header.readsAs_ofText (by decide) (by decide), Nat.zero_le _⟩

/-- Where a timestamp reopens, a signed request that carries it is admitted twice. -/
theorem not_admitsOnce_of_reopenable (effective : settings.effectiveLifetime? = some lifetime)
    (distinct : settings.DistinctHeaders) (reopenable : settings.Reopenable lifetime among) :
    ¬ settings.AdmitsOnce among := by
  obtain ⟨value, rawTimestamp, timestamp, first, again, reads, denotes, reopens, firstAmong,
    againAmong⟩ := reopenable
  have replayed : ∃ final, Steps ⟨.fresh settings "secret" ⟨[0]⟩, first.asked⟩
      ((Draft.carrying value rawTimestamp timestamp).replay settings "secret" ⟨[0]⟩ first again)
      final :=
    Draft.steps_replay effective distinct (Draft.carrying_sendable reads denotes) reopens
  obtain ⟨final, steps⟩ := replayed
  intro once
  have unique := once _ final _ rfl Validator.fresh_inMemory steps ?_
  · exact (List.nodup_cons.mp unique).1 (List.mem_singleton.mpr rfl)
  · intro admitted member
    rcases List.mem_cons.mp member with rfl | member
    · exact firstAmong
    · obtain rfl := List.mem_singleton.mp member
      exact againAmong

/-- The body of a call arrives within some time. -/
def Timing.ArrivesWithin (timing : Timing) (patience : Duration) : Prop :=
  timing.arrival ≤ patience.nanoseconds

namespace Reopens

/-- A timestamp that reopens is remembered for hardly longer than twice the skew and the time
that the second body takes: each of three differences and one sum may miss a leap second. -/
theorem spacing_le (effective : settings.effectiveLifetime? = some lifetime)
    (reopens : Reopens settings lifetime timestamp first again) :
    settings.spacing ≤
      2 * settings.clockSkew.nanoseconds + again.arrival + 4 * nanosPerSecond := by
  obtain ⟨expiry, expires, _, passed⟩ := reopens.forgotten
  obtain ⟨regular, arrival⟩ := Settings.expiry_position effective expires
  have reached := Instant.position_le_of_le regular passed
  have departs := ((timestamp.earlier first.asked).departure_near).1
  have firstDistance := (first.asked.since_nanoseconds_near timestamp).2
  have againDistance := (again.asked.since_nanoseconds_near timestamp).1
  have taken := (again.stored.since_nanoseconds_near again.asked).1
  have nearFirst := reopens.nearFirst
  have nearAgain := reopens.nearAgain
  unfold Settings.Near at nearFirst nearAgain
  unfold Timing.arrival
  rcases Instant.earlier_cases timestamp first.asked with ⟨earlier, _⟩ | ⟨earlier, _⟩
  · rw [earlier] at arrival departs
    omega
  · rw [earlier] at arrival departs
    omega

/-- Outside leap seconds a timestamp that reopens is remembered for twice the skew and the time
that the second body takes at most, and the skew is not nothing. -/
theorem spacing_le_of_regular (effective : settings.effectiveLifetime? = some lifetime)
    (reopens : Reopens settings lifetime timestamp first again)
    (regularFirst : first.Regular timestamp) (regularAgain : again.Regular timestamp) :
    settings.clockSkew.nanoseconds ≠ 0 ∧
      settings.spacing ≤ 2 * settings.clockSkew.nanoseconds + again.arrival := by
  obtain ⟨ahead, long⟩ := reopens.ahead_of_regular effective regularFirst regularAgain
  have near := reopens.nearFirst
  rw [Settings.Near, Instant.since_nanoseconds regularFirst.asked regularFirst.timestamp] at near
  rw [Instant.lt_iff_position_lt regularFirst.asked regularFirst.timestamp] at ahead
  rw [Instant.since_nanoseconds regularFirst.timestamp regularFirst.asked] at long
  omega

end Reopens

/-- Outside leap seconds a timestamp reopens that lies between two calls, near the clock in both,
when the second uses its nonce at the expiry of the first. -/
theorem reopens_of_position {early late expiry renewal : Instant}
    (effective : settings.effectiveLifetime? = some lifetime)
    (whole : lifetime.nanoseconds = settings.spacing)
    (regular : ∀ instant ∈ [timestamp, early, late, expiry, renewal], instant.isLeap = false)
    (ahead : early.position < timestamp.position) (behind : timestamp.position < late.position)
    (near : timestamp.position - early.position ≤ settings.clockSkew.nanoseconds)
    (nearAgain : late.position - timestamp.position ≤ settings.clockSkew.nanoseconds)
    (expires : expiry.position = early.position + settings.spacing)
    (renews : renewal.position = timestamp.position + settings.spacing)
    (arriving : late.position ≤ expiry.position) :
    Reopens settings lifetime timestamp (.still early) ⟨late, expiry⟩ := by
  simp only [List.forall_mem_cons] at regular
  obtain ⟨regular, earlyRegular, lateRegular, expiryRegular, renewalRegular, _⟩ := regular
  have long := Settings.second_le_effectiveLifetime effective
  have earlier : early < timestamp := (Instant.lt_iff_position_lt earlyRegular regular).mpr ahead
  have later : timestamp < late := (Instant.lt_iff_position_lt regular lateRegular).mpr behind
  have living : early < expiry := by
    rw [Instant.lt_iff_position_lt earlyRegular expiryRegular]
    simp only [nanosPerSecond] at long
    omega
  have renewed : expiry < renewal := by
    rw [Instant.lt_iff_position_lt expiryRegular renewalRegular]
    omega
  refine ⟨le_rfl, ?arrives, ?nearFirst, ?nearAgain, ⟨expiry, ?expires, living, le_rfl⟩,
    ⟨renewal, ?renews, renewed⟩⟩
  case arrives =>
    rw [← not_lt, Instant.lt_iff_position_lt expiryRegular lateRegular]
    omega
  case nearFirst =>
    rw [Settings.Near, Timing.still, Instant.since_nanoseconds earlyRegular regular]
    omega
  case nearAgain =>
    rw [Settings.Near, Instant.since_nanoseconds lateRegular regular]
    omega
  case expires =>
    rw [Timing.still, Instant.earlier, if_pos earlier, Instant.add?_eq_some_iff long,
      Instant.departure_eq_position earlyRegular]
    exact ⟨expiryRegular, by omega⟩
  case renews =>
    rw [Instant.earlier, if_neg (not_lt_of_gt later), Instant.add?_eq_some_iff long,
      Instant.departure_eq_position regular]
    exact ⟨renewalRegular, by omega⟩

/-- Settings with a skew that remember a nonce for twice the skew and some time at most let the
start of the Unix count reopen, by a second call whose body takes that time. -/
theorem reopenable_of_spacing_le {patience : Duration}
    (effective : settings.effectiveLifetime? = some lifetime)
    (skewed : settings.clockSkew.nanoseconds ≠ 0)
    (narrow : settings.spacing ≤ 2 * settings.clockSkew.nanoseconds + patience.nanoseconds)
    (representable : settings.spacing ≤ Instant.lastSecond * nanosPerSecond) :
    settings.Reopenable lifetime fun timestamp timing =>
      timing.Regular timestamp ∧ timing.ArrivesWithin patience := by
  have long := Settings.second_le_effectiveLifetime effective
  have cut := Settings.effectiveLifetime_nanoseconds effective
  simp only [Instant.lastSecond, Span.longest, nanosPerSecond] at cut long representable
  have whole : lifetime.nanoseconds = settings.spacing := by omega
  have start : Instant.epoch.position = 0 := rfl
  have regular : Instant.epoch.isLeap = false := rfl
  have placed (target : Int) (lower : -settings.spacing ≤ target)
      (upper : target ≤ settings.spacing) :
      ∃ instant : Instant, instant.isLeap = false ∧ instant.position = target := by
    apply Instant.exists_position <;>
      simp only [Instant.firstSecond, Instant.lastSecond, nanosPerSecond] <;> omega
  -- The first call comes as early before the start as it may, but not before half the spacing;
  -- the second checks its timestamp as late after it as it may, but not after the other half.
  let before : Int := min settings.clockSkew.nanoseconds (settings.spacing / 2)
  let after : Int := min settings.clockSkew.nanoseconds (settings.spacing - settings.spacing / 2)
  obtain ⟨early, earlyRegular, earlyPosition⟩ := placed (-before) (by omega) (by omega)
  obtain ⟨late, lateRegular, latePosition⟩ := placed after (by omega) (by omega)
  obtain ⟨expiry, expiryRegular, expiryPosition⟩ :=
    placed (settings.spacing - before) (by omega) (by omega)
  obtain ⟨renewal, renewalRegular, renewalPosition⟩ :=
    placed settings.spacing (by omega) (by omega)
  have among : ∀ instant ∈ [.epoch, early, late, expiry, renewal], instant.isLeap = false := by
    simp [regular, earlyRegular, lateRegular, expiryRegular, renewalRegular]
  have reopens : Reopens settings lifetime .epoch (.still early) ⟨late, expiry⟩ := by
    apply reopens_of_position effective whole among <;> omega
  have prompt : (Timing.still early).ArrivesWithin patience := by
    rw [Timing.ArrivesWithin, Timing.arrival_still]
    omega
  have patient : Timing.ArrivesWithin ⟨late, expiry⟩ patience := by
    rw [Timing.ArrivesWithin, Timing.arrival, Instant.since_nanoseconds expiryRegular lateRegular]
    omega
  exact ⟨Bytes.ofText "0", "0", .epoch, .still early, ⟨late, expiry⟩,
    Header.readsAs_ofText (by decide) (by decide), by decide, reopens,
    ⟨⟨regular, earlyRegular, earlyRegular⟩, prompt⟩,
    ⟨⟨regular, lateRegular, expiryRegular⟩, patient⟩⟩

/-- A signed request is admitted once in every history exactly when no timestamp that
can be sent reopens. None does when a nonce is remembered for more than four seconds
longer than twice the skew and the time that bodies may take. Outside leap seconds, and
for a remembrance that ends before the last representable instant, what counts is
whether it is longer than twice the skew and the time that bodies may take, or the skew
is nothing; where bodies may take any time, only a skew of nothing counts. -/
theorem admitsOnce_iff (effective : settings.effectiveLifetime? = some lifetime)
    (distinct : settings.DistinctHeaders) :
    (∀ among : Instant → Timing → Prop,
        settings.AdmitsOnce among ↔ ¬ settings.Reopenable lifetime among) ∧
      (∀ patience : Duration,
        2 * settings.clockSkew.nanoseconds + patience.nanoseconds + 4 * nanosPerSecond <
            settings.spacing →
          settings.AdmitsOnce fun _ timing => timing.ArrivesWithin patience) ∧
      (settings.spacing ≤ Instant.lastSecond * nanosPerSecond →
        (∀ patience : Duration,
          (settings.AdmitsOnce fun timestamp timing =>
              timing.Regular timestamp ∧ timing.ArrivesWithin patience) ↔
            settings.clockSkew.nanoseconds = 0 ∨
              2 * settings.clockSkew.nanoseconds + patience.nanoseconds < settings.spacing) ∧
          ((settings.AdmitsOnce fun timestamp timing => timing.Regular timestamp) ↔
            settings.clockSkew.nanoseconds = 0)) := by
  have exact (among : Instant → Timing → Prop) :
      settings.AdmitsOnce among ↔ ¬ settings.Reopenable lifetime among :=
    ⟨fun once reopenable => not_admitsOnce_of_reopenable effective distinct reopenable once,
      admitsOnce_of_not_reopenable effective⟩
  refine ⟨exact, ?lasting, fun representable => ⟨?bounded, ?unbounded⟩⟩
  case lasting =>
    intro patience wide
    rw [exact]
    rintro ⟨_, _, _, _, _, _, _, reopens, _, arrives⟩
    have narrow := reopens.spacing_le effective
    rw [Timing.ArrivesWithin] at arrives
    omega
  case bounded =>
    intro patience
    rw [exact]
    constructor
    · intro closed
      by_contra narrow
      rw [not_or] at narrow
      exact closed (reopenable_of_spacing_le effective narrow.1 (by omega) representable)
    · rintro wide ⟨_, _, _, _, _, _, _, reopens, ⟨firstRegular, _⟩, ⟨againRegular, arrives⟩⟩
      obtain ⟨skewed, narrow⟩ :=
        reopens.spacing_le_of_regular effective firstRegular againRegular
      rw [Timing.ArrivesWithin] at arrives
      omega
  case unbounded =>
    rw [exact]
    constructor
    · intro closed
      by_contra skewed
      -- A body that takes as long as nonces are remembered is late enough.
      let patience : Duration := ⟨settings.spacing.toNat⟩
      have late : settings.spacing ≤
          2 * settings.clockSkew.nanoseconds + patience.nanoseconds := by
        simp only [patience]
        omega
      obtain ⟨value, rawTimestamp, timestamp, first, again, reads, denotes, reopens,
        ⟨firstRegular, _⟩, ⟨againRegular, _⟩⟩ :=
        reopenable_of_spacing_le effective skewed late representable
      exact closed ⟨value, rawTimestamp, timestamp, first, again, reads, denotes, reopens,
        firstRegular, againRegular⟩
    · rintro none ⟨_, _, _, _, _, _, _, reopens, firstRegular, againRegular⟩
      exact (reopens.spacing_le_of_regular effective firstRegular againRegular).1 none

/-- Settings that remember a nonce for thirty-five seconds more than twice the skew admit every
signed request once, if no body takes more than half a minute. -/
theorem lasting_admitsOnce :
    (Settings.remembering 635).effectiveLifetime? = some ⟨635000000000⟩ ∧
      (Settings.remembering 635).DistinctHeaders ∧
      (Settings.remembering 635).AdmitsOnce
        fun _ timing => timing.ArrivesWithin (.seconds 30) := by
  have effective : (Settings.remembering 635).effectiveLifetime? = some ⟨635000000000⟩ := by decide
  have distinct := Settings.remembering_distinctHeaders 635
  exact ⟨effective, distinct, (admitsOnce_iff effective distinct).2.1 (.seconds 30) (by decide)⟩

/-- Under the standard settings a request signed five minutes ahead of the clock is
admitted twice, ten minutes apart, although the clock stands still during both calls. -/
theorem standard_admits_replay :
    ∃ final,
      Steps ⟨.fresh .standard "webhooks/test" ⟨Bytes.ofText "whsec_test"⟩, Draft.aheadFirst⟩
        (Draft.ahead.replay .standard "webhooks/test" ⟨Bytes.ofText "whsec_test"⟩
          (.still Draft.aheadFirst) (.still Draft.aheadAgain)) final ∧
      ¬ ((admissions (Draft.ahead.replay .standard "webhooks/test" ⟨Bytes.ofText "whsec_test"⟩
          (.still Draft.aheadFirst) (.still Draft.aheadAgain))).map
            Settings.standard.signed).Nodup := by
  have replayed : ∃ final,
      Steps ⟨.fresh .standard "webhooks/test" ⟨Bytes.ofText "whsec_test"⟩, Draft.aheadFirst⟩
        (Draft.ahead.replay .standard "webhooks/test" ⟨Bytes.ofText "whsec_test"⟩
          (.still Draft.aheadFirst) (.still Draft.aheadAgain)) final :=
    Draft.steps_replay (by decide) Settings.standard_distinctHeaders Draft.ahead_sendable
      Draft.ahead_reopens
  obtain ⟨final, steps⟩ := replayed
  refine ⟨final, steps, fun unique => ?_⟩
  exact (List.nodup_cons.mp unique).1 (List.mem_singleton.mpr rfl)

end Admission.Webhook
