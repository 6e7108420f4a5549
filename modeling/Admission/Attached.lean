import Admission.Identity
import Admission.Service
import Admission.User
import Admission.Webhook.Guard

/-!
# What guards attach

A guard that admits a request attaches what it has verified, and the handler of
the request runs with it. A handler that asks for what no guard attached refuses
the request as unauthenticated.
-/

namespace Admission

/-- What is attached to a request. -/
structure Attached where
  metadata : Option Webhook.Metadata
  caller : Option Service.Caller
  identity : Option Identity

namespace Attached

/-- Nothing attached. -/
def nothing : Attached := ⟨none, none, none⟩

/-- Attach what is known of a webhook. -/
def withMetadata (attached : Attached) (metadata : Webhook.Metadata) : Attached :=
  { attached with metadata := some metadata }

/-- Attach a service. -/
def withCaller (attached : Attached) (caller : Service.Caller) : Attached :=
  { attached with caller := some caller }

/-- Attach a user. -/
def withIdentity (attached : Attached) (identity : Identity) : Attached :=
  { attached with identity := some identity }

/-- What was attached, or the refusal of a request without it. -/
def demand {Admitted : Type} (part : Option Admitted) : Except Refusal Admitted :=
  match part with
  | some admitted => .ok admitted
  | none => .error .unauthenticated

/-- The webhook of a request. -/
def webhook (attached : Attached) : Except Refusal Webhook.Metadata := demand attached.metadata

/-- The service that sent a request. -/
def service (attached : Attached) : Except Refusal Service.Caller := demand attached.caller

/-- The user that sent a request. -/
def user (attached : Attached) : Except Refusal Identity := demand attached.identity

end Attached

namespace Response

/-- The answer of a handler to an outcome; a refused request never reaches it. -/
def ofOutcome {Admitted : Type} (outcome : Except Refusal Admitted)
    (handler : Admitted → Response) : Response :=
  match outcome with
  | .ok admitted => handler admitted
  | .error refusal => refusal.response

end Response
end Admission
