import Admission.Proofs.Webhook.Acceptance

/-!
# Histories of a validator

A history is a sequence of events on one store of nonces. The clock never goes
back, and secrets may be rotated or evicted at any time. A call stands in the
history where its nonce is used. It has read the clock once before, when it
checked the timestamp; that may have been before the calls ahead of it in the
history, so that calls may overlap while their bodies arrive. A call that found its
secret before a rotation stands between two changes of secrets. `Steps.spaced` is
the law that carries replay protection: an admitted nonce is admitted again only
once the expiry of its first use has come.
-/

namespace Admission.Webhook

/-- A validator and the instant its clock shows. -/
structure Moment where
  validator : Validator
  now : Instant

/-- When a call checks its timestamp, and when it uses its nonce. In between its body
arrives. -/
structure Timing where
  asked : Instant
  stored : Instant

/-- What happens to a validator. -/
inductive Event where
  /-- The clock moves on. -/
  | clock (later : Instant)
  /-- The source and the cache of secrets become others. -/
  | secrets (source : SecretSource) (cache : SecretCache)
  /-- A request is verified, with its outcome. -/
  | call (timing : Timing) (secretName : String) (request : Request)
      (outcome : Except Failure Delivery)

/-- The effect of one event. -/
inductive Step : Moment → Event → Moment → Prop where
  | clock {validator now later} (forward : now ≤ later) :
      Step ⟨validator, now⟩ (.clock later) ⟨validator, later⟩
  | secrets {validator now source cache} :
      Step ⟨validator, now⟩ (.secrets source cache)
        ⟨{ validator with source := source, cache := cache }, now⟩
  | call {validator now timing secretName request} (ordered : timing.asked ≤ timing.stored)
      (forward : now ≤ timing.stored) :
      Step ⟨validator, now⟩
        (.call timing secretName request
          (validator.verify timing.asked timing.stored secretName request).outcome)
        ⟨(validator.verify timing.asked timing.stored secretName request).validator,
          timing.stored⟩

/-- The effect of events one after the other. -/
inductive Steps : Moment → List Event → Moment → Prop where
  | refl {moment} : Steps moment [] moment
  | step {start event next events final} (transition : Step start event next)
      (rest : Steps next events final) : Steps start (event :: events) final

/-- A call that admitted its request. -/
structure Admitted where
  timing : Timing
  secretName : String
  request : Request
  delivery : Delivery

namespace Admitted

/-- The instant that the timestamp of the request denotes. -/
def timestamp (admitted : Admitted) : Instant := admitted.delivery.metadata.timestamp

/-- The nonce of the request. -/
def nonce (admitted : Admitted) : String := admitted.delivery.metadata.nonce

/-- What verification found when it admitted the request. -/
structure Grounds (admitted : Admitted) (settings : Settings) (reading : Reading)
    (lifetime : Span) (expiry : Instant) : Prop where
  ordered : admitted.timing.asked ≤ admitted.timing.stored
  checks : reading.Checks settings admitted.timing.asked admitted.request
  effective : settings.effectiveLifetime? = some lifetime
  expires : (admitted.timestamp.earlier admitted.timing.asked).add? lifetime = some expiry
  ahead : admitted.timing.stored < expiry
  delivery : admitted.delivery = reading.delivery admitted.secretName admitted.request

namespace Grounds

variable {admitted : Admitted} {settings : Settings} {reading : Reading} {lifetime : Span}
  {expiry : Instant}

theorem timestamp_eq (grounds : admitted.Grounds settings reading lifetime expiry) :
    admitted.timestamp = reading.timestamp := by
  rw [timestamp, grounds.delivery]
  rfl

theorem nonce_eq (grounds : admitted.Grounds settings reading lifetime expiry) :
    admitted.nonce = reading.nonce := by
  rw [nonce, grounds.delivery]
  rfl

/-- An admitted call had its timestamp near the clock. -/
theorem near (grounds : admitted.Grounds settings reading lifetime expiry) :
    settings.Near admitted.timing.asked admitted.timestamp := by
  rw [grounds.timestamp_eq]
  exact grounds.checks.near

end Grounds
end Admitted

/-- The admitted call that an event is. -/
def Event.admitted? : Event → Option Admitted
  | .call timing secretName request (.ok delivery) =>
      some ⟨timing, secretName, request, delivery⟩
  | _ => none

/-- The admitted calls of a history, in order. -/
def admissions (events : List Event) : List Admitted := events.filterMap Event.admitted?

/-- A use of a nonce is accounted for: its entry is in the table, unless its
expiry has come. -/
def Moment.Remembers (moment : Moment) (entry : UsedNonce) : Prop :=
  entry ∈ moment.validator.table.entries ∨ entry.expiry ≤ moment.now

variable {start next final : Moment} {event : Event} {events : List Event}

/-- Verification leaves the settings and the kind of the store alone. -/
theorem Validator.verify_frame {validator : Validator} (memory : validator.InMemory)
    (asked stored : Instant) (secretName : String) (request : Request) :
    (validator.verify asked stored secretName request).validator.InMemory ∧
      (validator.verify asked stored secretName request).validator.settings =
        validator.settings := by
  rcases Validator.verify_cases memory asked stored secretName request with
    ⟨_, _, after, _⟩ | ⟨_, _, _, _, _, _, _, after⟩
  · rw [after]
    exact ⟨memory.afterLookup, rfl⟩
  · rw [after]
    exact ⟨memory.afterLookup.withTable, rfl⟩

namespace Step

theorem inMemory (transition : Step start event next) (memory : start.validator.InMemory) :
    next.validator.InMemory := by
  cases transition with
  | clock => exact memory
  | secrets => exact ⟨memory.byTable, memory.prompt⟩
  | call => exact (Validator.verify_frame memory _ _ _ _).1

theorem settings (transition : Step start event next) (memory : start.validator.InMemory) :
    next.validator.settings = start.validator.settings := by
  cases transition with
  | clock => rfl
  | secrets => rfl
  | call => exact (Validator.verify_frame memory _ _ _ _).2

/-- No event makes an accounted use unaccounted for. -/
theorem remembers {entry : UsedNonce} (transition : Step start event next)
    (memory : start.validator.InMemory) (remembered : start.Remembers entry) :
    next.Remembers entry := by
  cases transition with
  | clock forward => exact remembered.imp_right fun passed => le_trans passed forward
  | secrets => exact remembered
  | @call validator now timing secretName request _ forward =>
      rcases remembered with member | passed
      · by_cases lives : timing.stored < entry.expiry
        · left
          rcases Validator.verify_cases memory timing.asked timing.stored secretName request with
            ⟨_, _, after, _⟩ | ⟨_, _, _, _, _, _, _, after⟩
          · simp only [after]
            exact member
          · simp only [after]
            exact NonceTable.mem_use member lives
        · exact .inr (le_of_not_gt lives)
      · exact .inr (le_trans passed forward)

/-- An admitted call has its grounds, and its use of the nonce is accounted for. -/
theorem admits {admitted : Admitted} (transition : Step start event next)
    (memory : start.validator.InMemory) (admits : event.admitted? = some admitted) :
    ∃ (reading : Reading) (lifetime : Span) (expiry : Instant),
      admitted.Grounds start.validator.settings reading lifetime expiry ∧
        next.Remembers ⟨admitted.secretName, admitted.nonce, expiry⟩ := by
  cases transition with
  | clock => cases admits
  | secrets => cases admits
  | @call validator now timing secretName request ordered _ =>
      cases outcome :
        (validator.verify timing.asked timing.stored secretName request).outcome with
      | error failure =>
          rw [outcome] at admits
          cases admits
      | ok delivery =>
          rw [outcome] at admits
          cases admits
          obtain ⟨reading, lifetime, expiry, verifies, effective, usable, rfl⟩ :=
            (Validator.verify_eq_ok_iff memory).mp outcome
          refine ⟨reading, lifetime, expiry,
            ⟨ordered, verifies.checks, effective, usable.expires, usable.ahead, rfl⟩, .inl ?_⟩
          simp only [Validator.verify_validator_of_usable memory verifies effective usable]
          exact List.mem_cons_self

/-- A nonce is admitted only once the expiries of its accounted uses have come. -/
theorem expiry_le {admitted : Admitted} {entry : UsedNonce} (transition : Step start event next)
    (memory : start.validator.InMemory) (remembered : start.Remembers entry)
    (admits : event.admitted? = some admitted) (sameScope : entry.scope = admitted.secretName)
    (sameNonce : entry.nonce = admitted.nonce) : entry.expiry ≤ admitted.timing.stored := by
  cases transition with
  | clock => cases admits
  | secrets => cases admits
  | @call validator now timing secretName request _ forward =>
      cases outcome :
        (validator.verify timing.asked timing.stored secretName request).outcome with
      | error failure =>
          rw [outcome] at admits
          cases admits
      | ok delivery =>
          rw [outcome] at admits
          cases admits
          obtain ⟨reading, _, _, _, _, usable, rfl⟩ :=
            (Validator.verify_eq_ok_iff memory).mp outcome
          rcases remembered with member | passed
          · refine le_of_not_gt fun lives => usable.unused ?_
            exact ⟨entry, member, sameScope, sameNonce, lives⟩
          · exact le_trans passed forward

end Step

theorem admissions_cons : admissions (event :: events) =
    event.admitted?.toList ++ admissions events := by
  unfold admissions
  cases admits : event.admitted? <;> simp [admits]

namespace Steps

/-- A nonce whose use is accounted for is admitted only once its expiry has come. -/
theorem expiry_le {entry : UsedNonce} (steps : Steps start events final)
    (memory : start.validator.InMemory) (remembered : start.Remembers entry) :
    ∀ admitted ∈ admissions events, entry.scope = admitted.secretName →
      entry.nonce = admitted.nonce → entry.expiry ≤ admitted.timing.stored := by
  induction steps with
  | refl => simp [admissions]
  | step transition _ inductionHypothesis =>
      intro admitted member sameScope sameNonce
      rw [admissions_cons, List.mem_append, Option.mem_toList] at member
      rcases member with admits | member
      · exact transition.expiry_le memory remembered admits sameScope sameNonce
      · exact inductionHypothesis (transition.inMemory memory)
          (transition.remembers memory remembered) admitted member sameScope sameNonce

/-- Every admitted call of a history has its grounds. -/
theorem grounds (steps : Steps start events final) (memory : start.validator.InMemory) :
    ∀ admitted ∈ admissions events, ∃ (reading : Reading) (lifetime : Span) (expiry : Instant),
      admitted.Grounds start.validator.settings reading lifetime expiry := by
  induction steps with
  | refl => simp [admissions]
  | step transition _ inductionHypothesis =>
      intro admitted member
      rw [admissions_cons, List.mem_append, Option.mem_toList] at member
      rcases member with admits | member
      · obtain ⟨reading, lifetime, expiry, grounds, _⟩ := transition.admits memory admits
        exact ⟨reading, lifetime, expiry, grounds⟩
      · rw [← transition.settings memory]
        exact inductionHypothesis (transition.inMemory memory) admitted member

/-- An admitted nonce is admitted again only once the expiry of its use has come. -/
theorem spaced (steps : Steps start events final) (memory : start.validator.InMemory) :
    (admissions events).Pairwise fun first later =>
      first.secretName = later.secretName → first.nonce = later.nonce →
        ∃ (reading : Reading) (lifetime : Span) (expiry : Instant),
          first.Grounds start.validator.settings reading lifetime expiry ∧
            expiry ≤ later.timing.stored := by
  induction steps with
  | refl => exact List.Pairwise.nil
  | @step start event next events final transition rest inductionHypothesis =>
      have tail := inductionHypothesis (transition.inMemory memory)
      rw [transition.settings memory] at tail
      rw [admissions_cons]
      cases admits : event.admitted? with
      | none => exact tail
      | some admitted =>
          refine List.pairwise_cons.mpr ⟨?_, tail⟩
          intro later member sameScope sameNonce
          obtain ⟨reading, lifetime, expiry, grounds, remembered⟩ := transition.admits memory admits
          exact ⟨reading, lifetime, expiry, grounds,
            rest.expiry_le (transition.inMemory memory) remembered later member sameScope sameNonce⟩

end Steps
end Admission.Webhook
