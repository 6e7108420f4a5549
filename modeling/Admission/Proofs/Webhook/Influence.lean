import Mathlib.Data.List.Forall2
import Admission.Proofs.Webhook.Reopening

/-!
# Rejected requests are without influence

A request that is rejected before its signature verifies neither sees the table of
nonces nor changes it. A rejected request of any kind may fill the cache of secrets
and sweep the table, but leaves the moment alike: what secrets resolve to and which
uses of nonces live stay the same. With unchanging secrets, therefore, leaving
rejected requests out of a history changes no other outcome.
-/

namespace Admission.Webhook

namespace Validator

variable {validator left right : Validator} {asked stored later : Instant}
  {secretName other : String} {request : Request}

/-- What a name resolves to is not changed by verification. -/
theorem lookup_verify_result (memory : validator.InMemory) :
    ((validator.verify asked stored secretName request).validator.lookup other).result =
      (validator.lookup other).result := by
  rcases verify_cases memory asked stored secretName request with
    ⟨_, _, after, _⟩ | ⟨_, _, _, _, _, _, _, after⟩
  · rw [after]
    exact SecretCache.get_get_result
  · rw [after]
    exact SecretCache.get_get_result

/-- A rejected request leaves the living uses of nonces as they were. -/
theorem live_verify_of_error {failure : Failure} (memory : validator.InMemory)
    (order : stored ≤ later)
    (rejected : (validator.verify asked stored secretName request).outcome = .error failure) :
    (validator.verify asked stored secretName request).validator.table.live later =
      validator.table.live later := by
  rcases verify_cases memory asked stored secretName request with
    ⟨_, _, after, _⟩ | ⟨reading, lifetime, expiry, _, _, _, outcome, after⟩
  · rw [after]
    rfl
  · have refused : (validator.table.use stored secretName reading.nonce expiry).1 ≠ .ok true := by
      intro answer
      rw [Delivery.answered_eq_ok_iff.mpr ⟨answer, rfl⟩, rejected] at outcome
      cases outcome
    rw [after]
    exact NonceTable.live_use_of_not_true order refused

/-- Settings, the resolution of the name and the uses of nonces that live when the nonce is
used decide verification, and the living uses afterwards. -/
theorem verify_congr (memoryLeft : left.InMemory) (memoryRight : right.InMemory)
    (settings : left.settings = right.settings)
    (resolution : (left.lookup secretName).result = (right.lookup secretName).result)
    (living : left.table.live stored = right.table.live stored) :
    (left.verify asked stored secretName request).outcome =
        (right.verify asked stored secretName request).outcome ∧
      (left.verify asked stored secretName request).validator.table.live stored =
        (right.verify asked stored secretName request).validator.table.live stored := by
  cases resolved : (left.lookup secretName).result with
  | error fault =>
      rw [verify_of_unresolved resolved, verify_of_unresolved (resolution ▸ resolved)]
      exact ⟨rfl, living⟩
  | ok secret =>
      have resolvedRight : (right.lookup secretName).result = .ok secret := resolution ▸ resolved
      cases checked : checkSigned left.settings secret secretName asked request with
      | error failure =>
          rw [verify_of_unsigned resolved checked,
            verify_of_unsigned resolvedRight (settings ▸ checked)]
          exact ⟨rfl, living⟩
      | ok signed =>
          rw [verify_of_signed resolved checked,
            verify_of_signed resolvedRight (settings ▸ checked)]
          cases expires : signed.expiry with
          | none =>
              rw [commit_of_none expires, commit_of_none expires]
              exact ⟨rfl, living⟩
          | some expiry =>
              rw [commit_of_some memoryLeft.afterLookup expires,
                commit_of_some memoryRight.afterLookup expires]
              obtain ⟨answer, livingAfter⟩ :
                  (left.table.use stored signed.metadata.secretName signed.metadata.nonce
                      expiry).1 =
                    (right.table.use stored signed.metadata.secretName signed.metadata.nonce
                      expiry).1 ∧ _ :=
                NonceTable.use_congr living
              exact ⟨congrArg (Delivery.answered _) answer, livingAfter⟩

end Validator

/-- Two moments at which the same is known: they agree in settings, in what every name
resolves to, and in the uses of nonces that live by the clock of the first. The clock of
the second may be behind, since it was not seen to move by the requests left out. -/
structure Moment.Alike (left right : Moment) : Prop where
  memoryLeft : left.validator.InMemory
  memoryRight : right.validator.InMemory
  behind : right.now ≤ left.now
  settings : left.validator.settings = right.validator.settings
  resolution : ∀ name, (left.validator.lookup name).result = (right.validator.lookup name).result
  living : left.validator.table.live left.now = right.validator.table.live left.now

/-- Uses of nonces that agree as far as they live now agree as far as they live later. -/
theorem Moment.Alike.living_later {left right : Moment} {later : Instant}
    (alike : left.Alike right) (forward : left.now ≤ later) :
    left.validator.table.live later = right.validator.table.live later := by
  have swept := congrArg (fun table => NonceTable.live table later) alike.living
  simpa only [NonceTable.live_live forward] using swept

/-- The secrets stay what they are. -/
def Steady (events : List Event) : Prop := ∀ source cache, Event.secrets source cache ∉ events

/-- Some rejected requests are left out of a history. -/
inductive Thinned : List Event → List Event → Prop where
  | nil : Thinned [] []
  | keep {event events kept} (rest : Thinned events kept) :
      Thinned (event :: events) (event :: kept)
  | drop {timing secretName request failure events kept} (rest : Thinned events kept) :
      Thinned (.call timing secretName request (.error failure) :: events) kept

/-- Two events that differ in the outcome of a call at most. -/
inductive Event.Resembles : Event → Event → Prop where
  | clock {later} : Resembles (.clock later) (.clock later)
  | secrets {source cache} : Resembles (.secrets source cache) (.secrets source cache)
  | call {timing secretName request outcome otherOutcome} :
      Resembles (.call timing secretName request outcome)
        (.call timing secretName request otherOutcome)

variable {start next final other otherNext otherFinal : Moment} {event otherEvent : Event}
  {events kept others : List Event}

theorem Moment.Alike.refl (memory : start.validator.InMemory) : start.Alike start :=
  ⟨memory, memory, le_rfl, rfl, fun _ => rfl, rfl⟩

namespace Step

/-- A moment and an event determine the outcome and the next moment. -/
theorem deterministic (transition : Step start event next)
    (otherTransition : Step start otherEvent otherNext) (resembles : event.Resembles otherEvent) :
    otherEvent = event ∧ otherNext = next := by
  cases resembles <;> cases transition <;> cases otherTransition <;> exact ⟨rfl, rfl⟩

/-- Alike moments take the same step and stay alike. -/
theorem alike (transition : Step start event next) (alike : start.Alike other)
    (steady : ∀ source cache, event ≠ .secrets source cache) :
    ∃ otherNext, Step other event otherNext ∧ next.Alike otherNext := by
  have living (later : Instant) (forward : start.now ≤ later) :
      start.validator.table.live later = other.validator.table.live later :=
    alike.living_later forward
  obtain ⟨memoryLeft, memoryRight, behind, settings, resolution, _⟩ := alike
  cases transition with
  | clock forward =>
      exact ⟨_, .clock (le_trans behind forward), memoryLeft, memoryRight, le_rfl, settings,
        resolution, living _ forward⟩
  | secrets => exact absurd rfl (steady _ _)
  | @call validator now timing secretName request ordered forward =>
      obtain ⟨outcome, livingAfter⟩ := Validator.verify_congr memoryLeft memoryRight settings
        (resolution secretName) (living _ forward)
      have frameLeft :=
        Validator.verify_frame memoryLeft timing.asked timing.stored secretName request
      have frameRight :=
        Validator.verify_frame memoryRight timing.asked timing.stored secretName request
      refine ⟨_, .of_outcome outcome.symm ordered (le_trans behind forward), frameLeft.1,
        frameRight.1, le_rfl, ?_, ?_, livingAfter⟩
      · rw [frameLeft.2, frameRight.2, settings]
      · intro name
        rw [Validator.lookup_verify_result memoryLeft, Validator.lookup_verify_result memoryRight,
          resolution name]

/-- A rejected request leaves a moment alike. -/
theorem alike_of_rejected {timing : Timing} {secretName : String} {request : Request}
    {failure : Failure}
    (transition : Step start (.call timing secretName request (.error failure)) next)
    (alike : start.Alike other) : next.Alike other := by
  have living (later : Instant) (forward : start.now ≤ later) :
      start.validator.table.live later = other.validator.table.live later :=
    alike.living_later forward
  obtain ⟨memoryLeft, memoryRight, behind, settings, resolution, _⟩ := alike
  -- The outcome of a call is computed, so it is named before the step is inverted.
  generalize rejected : Except.error failure = outcome at transition
  cases transition with
  | @call validator now _ _ _ ordered forward =>
      have frame :=
        Validator.verify_frame memoryLeft timing.asked timing.stored secretName request
      refine ⟨frame.1, memoryRight, le_trans behind forward, frame.2.trans settings, ?_, ?_⟩
      · intro name
        rw [Validator.lookup_verify_result memoryLeft, resolution name]
      · exact (Validator.live_verify_of_error memoryLeft le_rfl rejected.symm).trans
          (living _ forward)

end Step

namespace Steps

/-- A history without some of its rejected requests happens to every alike moment. -/
theorem thinned (steps : Steps start events final) (thins : Thinned events kept)
    (steady : Steady events) (alike : start.Alike other) :
    ∃ otherFinal, Steps other kept otherFinal ∧ final.Alike otherFinal := by
  -- Along the full history; the other moment only follows the steps that are kept.
  induction steps generalizing kept other with
  | refl =>
      cases thins
      exact ⟨other, .refl, alike⟩
  | step transition _ inductionHypothesis =>
      have steadyRest : Steady _ := fun source cache member =>
        steady source cache (List.mem_cons_of_mem _ member)
      cases thins with
      | keep rest =>
          obtain ⟨otherNext, otherTransition, alikeNext⟩ := transition.alike alike
            fun source cache same => steady source cache (same ▸ List.mem_cons_self)
          obtain ⟨otherFinal, otherSteps, alikeFinal⟩ :=
            inductionHypothesis rest steadyRest alikeNext
          exact ⟨otherFinal, .step otherTransition otherSteps, alikeFinal⟩
      | drop rest => exact inductionHypothesis rest steadyRest (transition.alike_of_rejected alike)

/-- A moment and the events of a history determine its outcomes. -/
theorem deterministic (steps : Steps start events final)
    (otherSteps : Steps start others otherFinal)
    (resembles : List.Forall₂ Event.Resembles events others) : others = events := by
  induction steps generalizing others with
  | refl =>
      cases resembles
      rfl
  | step transition _ inductionHypothesis =>
      cases resembles with
      | cons head tail =>
          cases otherSteps with
          | step otherTransition otherRest =>
              obtain ⟨rfl, rfl⟩ := transition.deterministic otherTransition head
              rw [inductionHypothesis otherRest tail]

end Steps

/-- Rejected requests are without influence. One that does not come through to a right
signature is answered alike on any two tables of nonces and leaves each as it was.
Leaving any rejected requests out of a history with steady secrets gives a history in
which no other outcome is different. -/
theorem rejected_without_influence :
    (∀ (validator : Validator) (asked stored : Instant) (secretName : String)
        (request : Request) (one another : NonceTable),
        (¬ ∃ reading : Reading, reading.Verifies validator asked secretName request) →
        ∃ (failure : Failure) (sourceAsked : Bool),
          (validator.withTable one).verify asked stored secretName request =
              ⟨.error failure, (validator.afterLookup secretName).withTable one,
                sourceAsked⟩ ∧
            (validator.withTable another).verify asked stored secretName request =
              ⟨.error failure, (validator.afterLookup secretName).withTable another,
                sourceAsked⟩) ∧
      ∀ (start final : Moment) (events kept : List Event), start.validator.InMemory →
        Steady events → Steps start events final → Thinned events kept →
        (∃ otherFinal, Steps start kept otherFinal) ∧
          ∀ (others : List Event) (otherFinal : Moment), Steps start others otherFinal →
            List.Forall₂ Event.Resembles kept others → others = kept := by
  constructor
  · intro validator asked stored secretName request one another unverified
    obtain ⟨failure, rejected⟩ := Validator.verify_of_unverified
      fun reading _ verifies => absurd ⟨reading, verifies⟩ unverified
    exact ⟨failure, _, rejected one, rejected another⟩
  · intro start final events kept memory steady steps thins
    obtain ⟨otherFinal, keptSteps, _⟩ := steps.thinned thins steady (Moment.Alike.refl memory)
    exact ⟨⟨otherFinal, keptSteps⟩, fun _ _ otherSteps resembles =>
      keptSteps.deterministic otherSteps resembles⟩

/-- A request without header fields. -/
def bareRequest : Request := ⟨"POST", "/hook", [], .complete []⟩

theorem bareRequest_unverified {validator : Validator} {asked : Instant} {secretName : String} :
    ¬ ∃ reading : Reading, reading.Verifies validator asked secretName bareRequest := by
  rintro ⟨reading, _, checks⟩
  obtain ⟨value, found, _⟩ := checks.signatureField
  cases found

/-- A request without header fields is rejected on every table, and a signed request
after it is admitted with it as without it. -/
theorem bareRequest_without_influence :
    (∃ (failure : Failure) (sourceAsked : Bool),
        (Validator.fresh .standard "hooks" ⟨[1]⟩).verify .epoch .epoch "hooks" bareRequest =
          ⟨.error failure, (Validator.fresh .standard "hooks" ⟨[1]⟩).afterLookup "hooks",
            sourceAsked⟩) ∧
      ∃ final otherFinal,
        Steps ⟨.fresh .standard "hooks" ⟨[1]⟩, .epoch⟩
          [.call (.still .epoch) "hooks" bareRequest (.error (.refused .signatureMissing)),
            Draft.first.admission .standard "hooks" ⟨[1]⟩ (.still .epoch)] final ∧
        Steps ⟨.fresh .standard "hooks" ⟨[1]⟩, .epoch⟩
          [Draft.first.admission .standard "hooks" ⟨[1]⟩ (.still .epoch)] otherFinal := by
  obtain ⟨failure, sourceAsked, rejected, _⟩ := rejected_without_influence.1
    (.fresh .standard "hooks" ⟨[1]⟩) .epoch .epoch "hooks" bareRequest .empty .empty
    bareRequest_unverified
  have effective : Settings.standard.effectiveLifetime? = some ⟨600000000000⟩ := by decide
  have usable : (Draft.first.reading ⟨[1]⟩).Usable .empty .epoch .epoch "hooks" ⟨600000000000⟩
      ⟨600, 0, by decide⟩ := by
    refine ⟨by decide, by decide, ?_⟩
    rintro ⟨_, member, _⟩
    cases member
  have near : Settings.standard.Near .epoch Draft.first.timestamp := by decide
  obtain ⟨outcome, _⟩ := Draft.admitted Validator.fresh_inMemory.afterLookup rfl effective
    Settings.standard_distinctHeaders Draft.first_sendable
    (SecretCache.resolves_get_iff.mpr Validator.fresh_resolves) near usable
  have steps : ∃ final, Steps ⟨.fresh .standard "hooks" ⟨[1]⟩, .epoch⟩
      [.call (.still .epoch) "hooks" bareRequest (.error (.refused .signatureMissing)),
        Draft.first.admission .standard "hooks" ⟨[1]⟩ (.still .epoch)] final :=
    ⟨_, .step (.of_outcome rfl le_rfl le_rfl) (.step (.of_outcome outcome le_rfl le_rfl) .refl)⟩
  obtain ⟨final, steps⟩ := steps
  obtain ⟨⟨otherFinal, otherSteps⟩, _⟩ := rejected_without_influence.2 _ _ _ _
    Validator.fresh_inMemory (by simp [Steady, Draft.admission]) steps (.drop (.keep .nil))
  exact ⟨⟨failure, sourceAsked, rejected⟩, final, otherFinal, steps, otherSteps⟩

end Admission.Webhook
