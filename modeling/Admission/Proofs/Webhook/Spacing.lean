import Admission.Proofs.Webhook.Reopening

/-!
# The spacing of admitted nonces

How far apart two admitted calls with one nonce lie. A use is remembered for the
longer of the nonce lifetime and a second more than the skew, counted from the
earlier of timestamp and clock. For two calls with one timestamp this leaves
room only when the timestamp lies far enough ahead of the clock, and none at all
when the time of remembrance is longer than twice the skew and the time that the
body of the second call takes to arrive. That time counts because the timestamp
is checked before it and the nonce used after it.
-/

namespace Admission.Webhook

namespace Settings

variable {settings : Settings} {lifetime : Span} {origin expiry : Instant}

/-- How long the use of a nonce is remembered, in nanoseconds. -/
def spacing (settings : Settings) : Int :=
  max settings.nonceLifetime.nanoseconds (settings.clockSkew.nanoseconds + nanosPerSecond)

/-- The effective lifetime is the spacing, or the longest span. -/
theorem effectiveLifetime_nanoseconds (effective : settings.effectiveLifetime? = some lifetime) :
    lifetime.nanoseconds = min settings.spacing Span.longest.nanoseconds := by
  simp only [effectiveLifetime?, Option.map_eq_some_iff, Duration.add?_eq_some_iff] at effective
  obtain ⟨least, ⟨_, sum⟩, rfl⟩ := effective
  simp only [Duration.span_nanoseconds, Duration.longer, spacing, Duration.seconds, sum]
  omega

/-- A second is the least effective lifetime. -/
theorem second_le_effectiveLifetime (effective : settings.effectiveLifetime? = some lifetime) :
    nanosPerSecond ≤ lifetime.nanoseconds := by
  rw [effectiveLifetime_nanoseconds effective]
  simp only [spacing, Span.longest, nanosPerSecond]
  omega

/-- A nonce with an expiry is remembered until its spacing has passed. -/
theorem expiry_position (effective : settings.effectiveLifetime? = some lifetime)
    (expires : origin.add? lifetime = some expiry) :
    expiry.isLeap = false ∧ expiry.position = origin.departure + settings.spacing := by
  have long := second_le_effectiveLifetime effective
  obtain ⟨regular, arrival⟩ := (Instant.add?_eq_some_iff long).mp expires
  have cut := effectiveLifetime_nanoseconds effective
  have before := origin.departure_near
  have originBounds := origin.position_bounds
  have expiryBounds := expiry.position_bounds
  refine ⟨regular, ?_⟩
  simp only [Span.longest, Instant.firstSecond, Instant.lastSecond, nanosPerSecond] at *
  omega

end Settings

namespace Timing

/-- How long the body of a call takes to arrive, in nanoseconds. -/
def arrival (timing : Timing) : Int := (timing.stored.since timing.asked).nanoseconds

theorem arrival_still (instant : Instant) : (still instant).arrival = 0 := by
  simp [arrival, still, Instant.since_nanoseconds_eq]

/-- No leap second comes into a call, neither by its timestamp nor by the clock. -/
structure Regular (timing : Timing) (timestamp : Instant) : Prop where
  timestamp : timestamp.isLeap = false
  asked : timing.asked.isLeap = false
  stored : timing.stored.isLeap = false

end Timing

variable {settings : Settings} {lifetime : Span} {timestamp : Instant} {first again : Timing}

/-- A timestamp with which two calls are admitted, the later after the expiry of the
earlier, reopens. -/
theorem reopens_of_grounds {earlier later : Admitted} {reading other : Reading}
    {expiry renewal : Instant} (grounds : earlier.Grounds settings reading lifetime expiry)
    (laterGrounds : later.Grounds settings other lifetime renewal)
    (passed : expiry ≤ later.timing.stored) (same : earlier.timestamp = later.timestamp) :
    Reopens settings lifetime earlier.timestamp earlier.timing later.timing where
  orderedFirst := grounds.ordered
  orderedAgain := laterGrounds.ordered
  nearFirst := grounds.near
  nearAgain := same ▸ laterGrounds.near
  forgotten := ⟨expiry, grounds.expires, grounds.ahead, passed⟩
  renewed := ⟨renewal, same ▸ laterGrounds.expires, laterGrounds.ahead⟩

/-- Outside leap seconds a timestamp that reopens lies ahead of the clock of the first call. What
is remembered lasts no longer than it lies ahead, the skew, and the time that the second body
takes. -/
theorem Reopens.ahead_of_regular (effective : settings.effectiveLifetime? = some lifetime)
    (reopens : Reopens settings lifetime timestamp first again)
    (regularFirst : first.Regular timestamp) (regularAgain : again.Regular timestamp) :
    first.asked < timestamp ∧ settings.spacing ≤
      (timestamp.since first.asked).nanoseconds + settings.clockSkew.nanoseconds +
        again.arrival := by
  obtain ⟨expiry, expires, _, passed⟩ := reopens.forgotten
  obtain ⟨renewal, renews, ahead⟩ := reopens.renewed
  obtain ⟨regular, arrival⟩ := Settings.expiry_position effective expires
  obtain ⟨regularRenewal, renewedArrival⟩ := Settings.expiry_position effective renews
  have reached := Instant.position_le_of_le regular passed
  have nearAgain := reopens.nearAgain
  rw [Settings.Near, Instant.since_nanoseconds regularAgain.asked regularAgain.timestamp]
    at nearAgain
  rw [Timing.arrival, Instant.since_nanoseconds regularAgain.stored regularAgain.asked,
    Instant.since_nanoseconds regularFirst.timestamp regularFirst.asked]
  rw [Instant.lt_iff_position_lt regularAgain.stored regularRenewal] at ahead
  -- The second expiry lies behind the first, so the first was not counted from the timestamp.
  have counted : first.asked < timestamp := by
    rcases Instant.earlier_cases timestamp first.asked with ⟨earlier, _⟩ | ⟨_, order⟩
    · rw [earlier, Instant.departure_eq_position regularFirst.timestamp] at arrival
      rcases Instant.earlier_cases timestamp again.asked with ⟨same, _⟩ | ⟨same, order⟩
      · rw [same, Instant.departure_eq_position regularFirst.timestamp] at renewedArrival
        omega
      · rw [same, Instant.departure_eq_position regularAgain.asked] at renewedArrival
        rw [Instant.lt_iff_position_lt regularAgain.asked regularFirst.timestamp] at order
        omega
    · exact order
  refine ⟨counted, ?_⟩
  have origin : timestamp.earlier first.asked = first.asked := if_pos counted
  rw [origin, Instant.departure_eq_position regularFirst.asked] at arrival
  omega

variable {start final : Moment} {events : List Event}

/-- Two admitted calls with one secret and one nonce lie the spacing apart: the nonce of the later
call is used that much after the earlier of the first call's timestamp and the clock that checked
it. With one timestamp they need it to lie ahead of that clock by the spacing less the skew and
the time in which the later body arrives, and the spacing to be no longer than twice the skew
and that time. -/
theorem admissions_spaced (memory : start.validator.InMemory)
    (steps : Steps start events final) :
    (admissions events).Pairwise fun first later =>
      first.secretName = later.secretName → first.nonce = later.nonce →
      first.timing.Regular first.timestamp → later.timing.Regular later.timestamp →
        start.validator.settings.spacing ≤
            (later.timing.stored.since
              (first.timestamp.earlier first.timing.asked)).nanoseconds ∧
          (first.timestamp = later.timestamp →
            first.timing.asked < first.timestamp ∧
              start.validator.settings.spacing - start.validator.settings.clockSkew.nanoseconds -
                  later.timing.arrival ≤
                (first.timestamp.since first.timing.asked).nanoseconds ∧
              ¬ 2 * start.validator.settings.clockSkew.nanoseconds + later.timing.arrival <
                start.validator.settings.spacing) := by
  refine (steps.spaced memory).imp_of_mem ?_
  intro first later _ laterAdmitted spaced sameScope sameNonce regular laterRegular
  obtain ⟨_, lifetime, expiry, grounds, passed⟩ := spaced sameScope sameNonce
  obtain ⟨_, _, _, laterGrounds⟩ := steps.grounds memory later laterAdmitted
  obtain rfl := Option.some.inj (grounds.effective.symm.trans laterGrounds.effective)
  constructor
  · obtain ⟨expiryRegular, arrival⟩ := Settings.expiry_position grounds.effective grounds.expires
    have reached := Instant.position_le_of_le expiryRegular passed
    have origin : (first.timestamp.earlier first.timing.asked).isLeap = false := by
      rcases Instant.earlier_cases first.timestamp first.timing.asked with
        ⟨earlier, _⟩ | ⟨earlier, _⟩
      · rw [earlier, regular.timestamp]
      · rw [earlier, regular.asked]
    rw [Instant.departure_eq_position origin] at arrival
    rw [Instant.since_nanoseconds laterRegular.stored origin]
    omega
  · intro same
    obtain ⟨ahead, long⟩ := (reopens_of_grounds grounds laterGrounds passed same).ahead_of_regular
      grounds.effective regular (same ▸ laterRegular)
    have near := grounds.near
    rw [Settings.Near, Instant.since_nanoseconds regular.asked regular.timestamp] at near
    refine ⟨ahead, by omega, ?_⟩
    rw [Instant.since_nanoseconds regular.timestamp regular.asked] at long
    omega

/-- The two admissions of the draft ahead of its time lie the spacing apart. -/
theorem ahead_replay_spaced :
    (Validator.fresh .standard "hooks" ⟨[1]⟩).InMemory ∧
      ∃ final, Steps ⟨.fresh .standard "hooks" ⟨[1]⟩, Draft.aheadFirst⟩
          (Draft.ahead.replay .standard "hooks" ⟨[1]⟩ (.still Draft.aheadFirst)
            (.still Draft.aheadAgain)) final ∧
        Settings.standard.spacing ≤ (Draft.aheadAgain.since Draft.aheadFirst).nanoseconds := by
  have replayed : ∃ final, Steps ⟨.fresh .standard "hooks" ⟨[1]⟩, Draft.aheadFirst⟩
      (Draft.ahead.replay .standard "hooks" ⟨[1]⟩ (.still Draft.aheadFirst)
        (.still Draft.aheadAgain)) final :=
    Draft.steps_replay (by decide) Settings.standard_distinctHeaders Draft.ahead_sendable
      Draft.ahead_reopens
  obtain ⟨final, steps⟩ := replayed
  have spaced := admissions_spaced Validator.fresh_inMemory steps
  have pair := (List.pairwise_cons.mp spaced).1 _ List.mem_cons_self rfl rfl ⟨rfl, rfl, rfl⟩
    ⟨rfl, rfl, rfl⟩
  exact ⟨Validator.fresh_inMemory, final, steps, pair.1⟩

/-- Where a nonce is remembered for four seconds longer than twice the skew, two requests with one
nonce and one timestamp are admitted all the same, when the body of the second takes as long. -/
theorem drawnOut_replay_admitted :
    2 * (Settings.remembering 604).clockSkew.nanoseconds < (Settings.remembering 604).spacing ∧
      ∃ final first later,
        Steps ⟨.fresh (.remembering 604) "webhooks/test" ⟨Bytes.ofText "whsec_test"⟩,
            Draft.aheadFirst⟩
          (Draft.ahead.replay (.remembering 604) "webhooks/test" ⟨Bytes.ofText "whsec_test"⟩
            (.still Draft.aheadFirst) Draft.aheadDrawnOut) final ∧
        admissions (Draft.ahead.replay (.remembering 604) "webhooks/test"
            ⟨Bytes.ofText "whsec_test"⟩ (.still Draft.aheadFirst) Draft.aheadDrawnOut) =
          [first, later] ∧
        first.secretName = later.secretName ∧ first.nonce = later.nonce ∧
        first.timestamp = later.timestamp ∧
        first.timing.Regular first.timestamp ∧ later.timing.Regular later.timestamp ∧
        (first.timestamp.since first.timing.asked).nanoseconds <
          (Settings.remembering 604).spacing -
            (Settings.remembering 604).clockSkew.nanoseconds := by
  have replayed : ∃ final, Steps
      ⟨.fresh (.remembering 604) "webhooks/test" ⟨Bytes.ofText "whsec_test"⟩, Draft.aheadFirst⟩
      (Draft.ahead.replay (.remembering 604) "webhooks/test" ⟨Bytes.ofText "whsec_test"⟩
        (.still Draft.aheadFirst) Draft.aheadDrawnOut) final :=
    Draft.steps_replay (by decide) (Settings.remembering_distinctHeaders 604)
      (Draft.ahead_sendable_remembering 604) Draft.ahead_reopens_drawnOut
  obtain ⟨final, steps⟩ := replayed
  exact ⟨by decide, final, _, _, steps, rfl, rfl, rfl, rfl, ⟨rfl, rfl, rfl⟩, ⟨rfl, rfl, rfl⟩,
    by decide⟩

end Admission.Webhook
