import Admission.Proofs.Webhook.Acceptance
import Admission.Webhook.Guard

/-!
# Guarding webhooks

A guard names the secret of a request by a rule of its own, and what verification makes of the
request is the outcome. Verification goes on to an outcome unless the settings leave no lifetime
for nonces, and what it delivers is the body that was sent.
-/

namespace Admission.Webhook

/-- How a webhook guard names the secret of a request: always alike, or by any rule. -/
inductive Naming where
  | fixed (secretName : String)
  | ruled (rule : Request → Option String)

/-- The secret that a guard asks of a request, or why there is none. -/
def Naming.secretName (naming : Naming) (request : Request) : Except Refusal String :=
  match naming with
  | .fixed name => if Text.isBlankText name then .error .secretNotConfigured else .ok name
  | .ruled rule =>
      match rule request with
      | some name => if Text.isBlankText name then .error .unknownProvider else .ok name
      | none => .error .unknownProvider

/-- The naming by a selector. -/
def Selector.naming : Selector → Naming
  | .fixed name => .fixed name
  | .byProvider secrets => .ruled fun request => providerSecret? secrets request.path

theorem Selector.secretName_naming (selector : Selector) (request : Request) :
    selector.naming.secretName request = selector.secretName request.path := by
  cases selector <;> rfl

/-- Guard one request whose secret is named, or refused for want of a name. -/
def Validator.guardNamed (validator : Validator) (named : Except Refusal String)
    (asked stored : Instant) (request : Request) : Judgement :=
  match named with
  | .error refusal =>
      ⟨.error (.refused refusal), validator, false, decisionsOf (.error (.refused refusal))⟩
  | .ok name =>
      let verdict := validator.verify asked stored name request
      ⟨verdict.outcome, verdict.validator, verdict.asked, decisionsOf verdict.outcome⟩

theorem Validator.guard_eq_guardNamed (validator : Validator) (selector : Selector)
    (asked stored : Instant) (request : Request) :
    validator.guard selector asked stored request =
      validator.guardNamed (selector.naming.secretName request) asked stored request := by
  rw [selector.secretName_naming]
  rfl

variable {settings : Settings} {secret : Secret} {secretName : String}
  {asked stored : Instant} {request : Request} {validator : Validator} {delivery : Delivery}

theorem require_eq_error_iff {Value : Type} {failure other : Failure} {found : Option Value} :
    require failure found = .error other ↔ found = none ∧ failure = other := by
  cases found <;> simp [require]

theorem refuseWhen_ne_overflow {ground : Prop} [Decidable ground] {refusal : Refusal} :
    refuseWhen ground refusal ≠ .error .overflow := by
  unfold refuseWhen
  split <;> simp

/-- The checks cannot go on only where the settings leave no lifetime. -/
theorem checkSigned_overflow
    (stuck : checkSigned settings secret secretName asked request = .error .overflow) :
    settings.effectiveLifetime? = none := by
  simp only [checkSigned, Outcome.bind_eq_error_iff, Outcome.mapError_eq_error_iff,
    require_eq_error_iff, refuseWhen_ne_overflow, reduceCtorEq, and_false, exists_false, false_or,
    and_true] at stuck
  obtain ⟨_, _, _, _, _, _, _, _, _, _, _, _, _, _, _, _, unlasting | ⟨_, _, impossible⟩⟩ := stuck
  · exact unlasting
  · cases impossible

/-- A right signature delivers the body that was sent, or the nonce is refused. -/
theorem Validator.commit_cases (validator : Validator) (stored : Instant) (signed : Signed) :
    (validator.commit stored signed).1 = .ok ⟨signed.metadata, signed.body⟩ ∨
      ∃ refusal, (validator.commit stored signed).1 = .error (.refused refusal) := by
  unfold commit
  split
  · exact .inr ⟨_, rfl⟩
  · simp only
    split
    · exact .inl rfl
    · exact .inr ⟨_, rfl⟩

/-- Verification cannot go on only where the settings leave no lifetime. -/
theorem Validator.verify_overflow
    (stuck : (validator.verify asked stored secretName request).outcome = .error .overflow) :
    validator.settings.effectiveLifetime? = none := by
  cases resolved : (validator.lookup secretName).result with
  | error fault =>
      rw [verify_of_unresolved resolved] at stuck
      cases stuck
  | ok secret =>
      cases checked : checkSigned validator.settings secret secretName asked request with
      | error failure =>
          rw [verify_of_unsigned resolved checked] at stuck
          cases stuck
          exact checkSigned_overflow checked
      | ok signed =>
          rw [verify_of_signed resolved checked] at stuck
          rcases commit_cases (validator.afterLookup secretName) stored signed with
            delivered | ⟨refusal, refused⟩
          · rw [delivered] at stuck
            cases stuck
          · rw [refused] at stuck
            cases stuck

/-- What is delivered is the body that was sent. -/
theorem Validator.verify_body
    (delivered : (validator.verify asked stored secretName request).outcome = .ok delivery) :
    delivery.body = request.body.bytes := by
  cases resolved : (validator.lookup secretName).result with
  | error fault =>
      rw [verify_of_unresolved resolved] at delivered
      cases delivered
  | ok secret =>
      cases checked : checkSigned validator.settings secret secretName asked request with
      | error failure =>
          rw [verify_of_unsigned resolved checked] at delivered
          cases delivered
      | ok signed =>
          obtain ⟨reading, _, _, checks, _, rfl⟩ := checkSigned_eq_ok_iff.mp checked
          rw [verify_of_signed resolved checked] at delivered
          rcases commit_cases (validator.afterLookup secretName) stored _ with
            same | ⟨refusal, refused⟩
          · rw [same] at delivered
            cases delivered
            exact checks.body
          · rw [refused] at delivered
            cases delivered

end Admission.Webhook
