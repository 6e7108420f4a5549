import Admission.Proofs.Webhook.History

/-!
# Timestamps that are accepted twice

A timestamp reopens when two calls find it near the clock and the use of its nonce by
the first is forgotten when the second uses it. Whenever one does, a signed request that
carries it is admitted by both calls (`Draft.steps_replay`).
-/

namespace Admission.Webhook

/-- The timing of a call during which the clock stands still. -/
def Timing.still (instant : Instant) : Timing := ⟨instant, instant⟩

/-- A timestamp is near the clock when two calls check it, and what the first remembered
has expired when the second uses its nonce. -/
structure Reopens (settings : Settings) (lifetime : Span) (timestamp : Instant)
    (first again : Timing) : Prop where
  orderedFirst : first.asked ≤ first.stored
  orderedAgain : again.asked ≤ again.stored
  nearFirst : settings.Near first.asked timestamp
  nearAgain : settings.Near again.asked timestamp
  forgotten : ∃ expiry, (timestamp.earlier first.asked).add? lifetime = some expiry ∧
    first.stored < expiry ∧ expiry ≤ again.stored
  renewed : ∃ expiry, (timestamp.earlier again.asked).add? lifetime = some expiry ∧
    again.stored < expiry

/-- A call with a known outcome is a step. -/
theorem Step.of_outcome {validator : Validator} {now : Instant} {timing : Timing}
    {secretName : String} {request : Request} {outcome : Except Failure Delivery}
    (known : (validator.verify timing.asked timing.stored secretName request).outcome = outcome)
    (ordered : timing.asked ≤ timing.stored) (forward : now ≤ timing.stored) :
    Step ⟨validator, now⟩ (.call timing secretName request outcome)
      ⟨(validator.verify timing.asked timing.stored secretName request).validator,
        timing.stored⟩ := by
  rw [← known]
  exact .call ordered forward

namespace Draft

variable {draft : Draft} {settings : Settings} {lifetime : Span} {secretName : String}
  {secret : Secret} {first again : Timing}

/-- The delivery that the sender has in mind. -/
def delivery (draft : Draft) (settings : Settings) (secretName : String) (secret : Secret) :
    Delivery :=
  (draft.reading secret).delivery secretName (draft.request settings secret)

/-- A call that admits the signed request. -/
def admission (draft : Draft) (settings : Settings) (secretName : String) (secret : Secret)
    (timing : Timing) : Event :=
  .call timing secretName (draft.request settings secret)
    (.ok (draft.delivery settings secretName secret))

/-- A signed request is admitted, and admitted once more later. -/
def replay (draft : Draft) (settings : Settings) (secretName : String) (secret : Secret)
    (first again : Timing) : List Event :=
  [draft.admission settings secretName secret first,
    draft.admission settings secretName secret again]

/-- A signed request is admitted where its secret resolves, its timestamp is near the
clock and its nonce can be used. -/
theorem admitted {validator : Validator} {asked stored expiry : Instant}
    (memory : validator.InMemory) (settled : validator.settings = settings)
    (effective : settings.effectiveLifetime? = some lifetime)
    (distinct : settings.DistinctHeaders) (sendable : draft.Sendable settings)
    (resolves : validator.cache.Resolves validator.secretTimeout validator.source secretName secret)
    (near : settings.Near asked draft.timestamp)
    (usable : (draft.reading secret).Usable validator.table asked stored secretName lifetime
      expiry) :
    (validator.verify asked stored secretName (draft.request settings secret)).outcome =
        .ok (draft.delivery settings secretName secret) ∧
      (validator.verify asked stored secretName (draft.request settings secret)).validator =
        (validator.afterLookup secretName).withTable
          ⟨⟨secretName, draft.nonce, expiry⟩ :: (validator.table.live stored).entries⟩ := by
  subst settled
  have verifies : (draft.reading secret).Verifies validator asked secretName
      (draft.request validator.settings secret) :=
    ⟨resolves, checks distinct sendable near⟩
  exact ⟨(Validator.verify_eq_ok_iff memory).mpr ⟨_, _, _, verifies, effective, usable, rfl⟩,
    Validator.verify_validator_of_usable memory verifies effective usable⟩

/-- When its timestamp reopens, a signed request is admitted twice. -/
theorem steps_replay (effective : settings.effectiveLifetime? = some lifetime)
    (distinct : settings.DistinctHeaders) (sendable : draft.Sendable settings)
    (reopens : Reopens settings lifetime draft.timestamp first again) :
    ∃ final, Steps ⟨.fresh settings secretName secret, first.asked⟩
      (draft.replay settings secretName secret first again) final := by
  obtain ⟨expiry, expires, ahead, passed⟩ := reopens.forgotten
  obtain ⟨renewal, renews, renewedAhead⟩ := reopens.renewed
  have unused : ¬ (Validator.fresh settings secretName secret).table.Tracks first.stored secretName
      draft.nonce := by
    rintro ⟨_, member, _⟩
    cases member
  obtain ⟨outcome, after⟩ := admitted Validator.fresh_inMemory rfl effective distinct sendable
    Validator.fresh_resolves reopens.nearFirst ⟨expires, ahead, unused⟩
  have transition := Step.of_outcome outcome reopens.orderedFirst reopens.orderedFirst
  rw [after] at transition
  -- When the second call uses its nonce, the only entry of the table has expired.
  have unusedAgain : ¬ NonceTable.Tracks ⟨⟨secretName, draft.nonce, expiry⟩ ::
      ((Validator.fresh settings secretName secret).table.live first.stored).entries⟩
      again.stored secretName draft.nonce := by
    rintro ⟨entry, member, _, _, lives⟩
    rcases List.mem_cons.mp member with rfl | older
    · exact absurd lives (not_lt_of_ge passed)
    · cases (NonceTable.mem_live.mp older).1
  obtain ⟨outcomeAgain, _⟩ := admitted Validator.fresh_inMemory.afterLookup.withTable rfl effective
    distinct sendable (SecretCache.resolves_get_iff.mpr Validator.fresh_resolves)
    reopens.nearAgain ⟨renews, renewedAhead, unusedAgain⟩
  have forward : first.stored ≤ again.stored := le_of_lt (lt_of_lt_of_le ahead passed)
  exact ⟨_, .step transition
    (.step (.of_outcome outcomeAgain reopens.orderedAgain forward) .refl)⟩

/-- A draft whose timestamp lies five minutes ahead of its first arrival. -/
def ahead : Draft where
  method := "POST"
  target := "/hook"
  timestampValue := Bytes.ofText "1700000300"
  rawTimestamp := "1700000300"
  timestamp := ⟨1700000300, 0, by decide⟩
  nonceValue := Bytes.ofText "nonce-1"
  nonce := "nonce-1"
  body := Bytes.ofText "\x7b\"event\":\"x\"\x7d"

theorem aheadFirst_valid : Instant.Valid 1700000000 0 := by decide

/-- When the draft ahead of its time first arrives. -/
def aheadFirst : Instant := ⟨1700000000, 0, aheadFirst_valid⟩

/-- When the draft ahead of its time arrives again, ten minutes later. -/
def aheadAgain : Instant := ⟨1700000600, 0, by decide⟩

theorem ahead_sendable : ahead.Sendable .standard :=
  ⟨Header.readsAs_ofText (by decide) (by decide), by decide,
    Header.readsAs_ofText (by decide) (by decide), by decide⟩

theorem ahead_reopens :
    Reopens .standard ⟨600000000000⟩ ahead.timestamp (.still aheadFirst) (.still aheadAgain) :=
  ⟨le_rfl, le_rfl, by decide, by decide, ⟨aheadAgain, by decide, by decide, by decide⟩,
    ⟨⟨1700000900, 0, by decide⟩, by decide, by decide⟩⟩

end Draft

/-- Settings that remember nonces for as long as given. -/
def Settings.remembering (seconds : Nat) : Settings :=
  { Settings.standard with nonceLifetime := .seconds seconds }

theorem Settings.remembering_distinctHeaders (seconds : Nat) :
    (Settings.remembering seconds).DistinctHeaders :=
  ⟨standard_distinctHeaders.timestamp, standard_distinctHeaders.nonce,
    standard_distinctHeaders.timestampNonce⟩

namespace Draft

/-- The draft ahead of its time arrives again after ten minutes, and takes four seconds. -/
def aheadDrawnOut : Timing := ⟨aheadAgain, ⟨1700000604, 0, by decide⟩⟩

theorem ahead_sendable_remembering (seconds : Nat) : ahead.Sendable (.remembering seconds) :=
  ⟨ahead_sendable.timestampReads, ahead_sendable.timestamp, ahead_sendable.nonceReads,
    ahead_sendable.bodyFits⟩

/-- What is remembered for longer than twice the skew is forgotten while the body arrives. -/
theorem ahead_reopens_drawnOut :
    Reopens (.remembering 604) ⟨604000000000⟩ ahead.timestamp (.still aheadFirst)
      aheadDrawnOut :=
  ⟨le_rfl, by decide, by decide, by decide,
    ⟨⟨1700000604, 0, by decide⟩, by decide, by decide, by decide⟩,
    ⟨⟨1700000904, 0, by decide⟩, by decide, by decide⟩⟩

end Draft
end Admission.Webhook
