import Admission.Decision
import Admission.Webhook.Verification

/-!
# Guarding webhooks

A guard names the secret of a request, either one for all or by the last segment
of the path, and admits the request when it verifies against that secret.
-/

namespace Admission.Webhook

/-- How a guard chooses the secret of a request. -/
inductive Selector where
  /-- One secret for every request. -/
  | fixed (secretName : String)
  /-- By provider: names of providers with the names of their secrets. -/
  | byProvider (secrets : List (String × String))
deriving DecidableEq, Repr

/-- The last segment of a path that is not empty. -/
def lastSegment? (path : String) : Option String :=
  ((Text.split '/' path.toList).reverse.find? fun segment => !segment.isEmpty).map String.ofList

/-- The secret of the provider that a path ends in. Providers are compared
without regard to ASCII case. -/
def providerSecret? (secrets : List (String × String)) (path : String) : Option String := do
  let provider ← lastSegment? path
  let entry ← secrets.find? fun entry => Text.sameIgnoringCase entry.1 provider
  return entry.2

/-- The secret a guard asks of a request, or why there is none. -/
def Selector.secretName (selector : Selector) (path : String) : Except Refusal String :=
  match selector with
  | .fixed name => if Text.isBlankText name then .error .secretNotConfigured else .ok name
  | .byProvider secrets =>
      match providerSecret? secrets path with
      | some name => if Text.isBlankText name then .error .unknownProvider else .ok name
      | none => .error .unknownProvider

/-- The outcome of a guard: a delivery for the handler or a refusal, with the
one decision that is recorded. -/
structure Judgement where
  outcome : Except Failure Delivery
  validator : Validator
  asked : Bool
  decisions : List Decision

/-- The decisions recorded for an outcome. Nothing is recorded when verification
could not go on. -/
def decisionsOf (outcome : Except Failure Delivery) : List Decision :=
  match outcome with
  | .ok _ => [Decision.ofOutcome .webhook none]
  | .error (.refused refusal) => [Decision.ofOutcome .webhook (some refusal)]
  | .error .overflow => []

/-- Guard one request. -/
def Validator.guard (validator : Validator) (selector : Selector) (asked stored : Instant)
    (request : Request) : Judgement :=
  match selector.secretName request.path with
  | .error refusal =>
      let outcome : Except Failure Delivery := .error (.refused refusal)
      ⟨outcome, validator, false, decisionsOf outcome⟩
  | .ok name =>
      let verdict := validator.verify asked stored name request
      ⟨verdict.outcome, verdict.validator, verdict.asked, decisionsOf verdict.outcome⟩

end Admission.Webhook
