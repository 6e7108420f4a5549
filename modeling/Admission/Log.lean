import Admission.Json

/-!
# Log events
-/

namespace Admission.Log

/-- How grave an event is. -/
inductive Level where
  | error
  | warn
  | info
  | debug
  | trace
deriving DecidableEq, Repr

namespace Level

/-- The label of a level. -/
def label : Level → String
  | .error => "ERROR"
  | .warn => "WARN"
  | .info => "INFO"
  | .debug => "DEBUG"
  | .trace => "TRACE"

/-- The place of a level, the gravest first, counted from one. -/
def rank : Level → Nat
  | .error => 1
  | .warn => 2
  | .info => 3
  | .debug => 4
  | .trace => 5

end Level

/-- The parts of the program that log. -/
inductive Target where
  | program
  | webhook
  | service
  | user
  | payment
deriving DecidableEq, Repr

/-- The label of a part. -/
def Target.label : Target → String
  | .program => "inbound_auth"
  | .webhook => "inbound_auth::auth::hmac"
  | .service => "inbound_auth::auth::oidc"
  | .user => "inbound_auth::auth::firebase"
  | .payment => "inbound_auth::api::webhooks"

/-- A log event. -/
structure Event where
  level : Level
  target : Target
  message : String
  fields : List (String × Json)
deriving Repr

/-- The event as a value. -/
def Event.json (event : Event) : Json :=
  .object [("level", .text event.level.label), ("target", .text event.target.label),
    ("fields", .object (("message", .text event.message) :: event.fields))]

end Admission.Log
