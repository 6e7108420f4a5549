import Admission.Attached
import Admission.Exposition
import Admission.Http.Methods
import Admission.Log

/-!
# The application

Five kinds of routes: health, webhooks behind a signature, a service route
behind a service token, a user route behind a user token, and the counters. A
guard judges a request before its method counts. Every response reports the
identifier of its request.
-/

namespace Admission

/-- The state of the application. -/
structure Application where
  webhooks : Webhook.Validator
  selector : Webhook.Selector
  /-- The guard of the service route, when it is served. -/
  service : Option Service.Guard
  /-- The guard of the user route, when it is served. -/
  users : Option User.Guard
  /-- Whether the counters are served. -/
  exports : Bool
  /-- The decisions of all guards so far. -/
  decisions : List Decision

namespace Application

/-- What surrounds a request. -/
structure Moment where
  now : Instant
  /-- The clock once the body of the request has arrived. -/
  arrived : Instant
  /-- The time in seconds by which tokens expire. -/
  time : Nat
  /-- What comes back when service keys are fetched. -/
  serviceReply : Reply
  /-- What comes back when user keys are fetched. -/
  userReply : Reply
  /-- How long it takes to come back, within the time for a fetch. -/
  userDrawn : Duration
  /-- The identifier of a request that brings none. -/
  freshId : String

/-- The routes. -/
inductive Route where
  | health
  | liveness
  | payment (provider : List Char)
  | caller
  | user
  | counters
deriving DecidableEq, Repr

/-- The methods of a route. -/
def Route.methods : Route → Methods
  | .payment _ => .posting
  | _ => .reading

/-- The provider of a payment path: its one segment behind the fixed ones. -/
def provider? (path : String) : Option (List Char) :=
  let leading := "/webhooks/payments/".toList
  let segment := path.toList.drop leading.length
  if leading.isPrefixOf path.toList ∧ !segment.isEmpty ∧ !segment.contains '/' then some segment
  else none

/-- The route of a path. -/
def route? (application : Application) (path : String) : Option Route :=
  if path = "/health" then some .health
  else if path = "/health/live" then some .liveness
  else if path = "/internal/whoami" ∧ application.service.isSome then some .caller
  else if path = "/v1/me" ∧ application.users.isSome then some .user
  else if path = "/metrics" ∧ application.exports then some .counters
  else (provider? path).map .payment

/-- The key cache of the service route. -/
def serviceKeys? (application : Application) : Option KeyCache :=
  application.service.map (·.keys)

/-- The key cache of the user route. -/
def userKeys? (application : Application) : Option KeyCache :=
  application.users.bind fun guard => guard.verifier.keys?

/-- Replace the key cache of the service route. -/
def withServiceKeys (application : Application) (keys : KeyCache) : Application :=
  { application with service := application.service.map fun guard => { guard with keys := keys } }

/-- Replace the key cache of the user route. -/
def withUserKeys (application : Application) (keys : KeyCache) : Application :=
  { application with
    users := application.users.map fun guard =>
      match guard.verifier with
      | .table _ _ => guard
      | .signed project => { guard with verifier := .signed { project with keys := keys } } }

/-- What has been counted. -/
def tally (application : Application) : Tally :=
  let keys := application.serviceKeys?.toList ++ application.userKeys?.toList
  ⟨application.decisions, keys.flatMap (·.refreshes)⟩

/-- Let refreshes in the background finish. -/
def settle (application : Application) (moment : Moment) : Application :=
  let application :=
    match application.serviceKeys? with
    | some keys => application.withServiceKeys (keys.settle moment.now moment.serviceReply)
    | none => application
  match application.userKeys? with
  | some keys => application.withUserKeys (keys.settle moment.now moment.userReply)
  | none => application

/-- What becomes of one request. -/
structure Answer where
  /-- The response; there is none when handling could not go on. -/
  response : Option Response
  application : Application
  events : List Log.Event

/-- Whether usable keys are at hand or can be fetched, and the cache after that. -/
def checkKeys (keys : KeyCache) (now : Instant) (reply : Reply) : Bool × KeyCache :=
  match keys.standing now with
  | .fresh => (true, keys)
  | .prefetch => (true, keys)
  | _ =>
      match keys.refresh now reply with
      | (.ok _, keys) => (true, keys)
      | (.error _, keys) => (false, keys)

/-- The health of named key caches. -/
def healthOf (checks : List (String × Bool)) : Response :=
  let healthy := checks.all (·.2)
  let keys := checks.map fun check =>
    (check.1, Json.text (if check.2 then "ok" else "unavailable"))
  let parts := if keys.isEmpty then [] else [("jwks", Json.object keys)]
  .json (if healthy then 200 else 503)
    (.object [("status", .text (if healthy then "ok" else "degraded")),
      ("checks", .object (("service", .text "ok") :: parts))])

/-- The health of the application; missing keys are fetched for it. -/
def health (application : Application) (moment : Moment) : Response × Application :=
  let (service, application) :=
    match application.serviceKeys? with
    | some keys =>
        let (healthy, keys) := checkKeys keys moment.now moment.serviceReply
        ([("oidc", healthy)], application.withServiceKeys keys)
    | none => ([], application)
  let (users, application) :=
    match application.userKeys? with
    | some keys =>
        let (healthy, keys) := checkKeys keys moment.now moment.userReply
        ([("firebase", healthy)], application.withUserKeys keys)
    | none => ([], application)
  (healthOf (service ++ users), application)

/-- The answer to a question for the program itself. -/
def liveness : Response := .json 200 (.object [("status", .text "ok")])

/-- A member for a text that is there. -/
def presentText (name : String) (value : Option String) : List (String × Json) :=
  (value.map fun text => (name, Json.text text)).toList

/-- What a service is told of itself. -/
def describeCaller (caller : Service.Caller) : Response :=
  .json 200 (.object (("subject", .text caller.subject) :: presentText "email" caller.email ++
    [("issuer", .text caller.issuer), ("audience", .text caller.audience),
      ("source", .text caller.source.label)]))

/-- What a user is told of itself. -/
def describeUser (identity : Identity) : Response :=
  .json 200 (.object (("uid", .text identity.uid) :: presentText "email" identity.email ++
    ("roles", .array (identity.roles.map .text)) :: presentText "locale" identity.locale))

/-- The most bytes of an accepted payment. -/
def paymentLimit : Nat := 2097152

/-- Take a payment: answer what was received from whom, and log it. -/
def takePayment (provider : List Char) (body : Bytes) (attached : Attached) :
    Response × List Log.Event :=
  match (Target.percentDecode provider).text? with
  | none => (.text 400 "Invalid URL: Invalid UTF-8 in \x60provider\x60", [])
  | some provider =>
      match attached.webhook with
      | .error refusal => (refusal.response, [])
      | .ok metadata =>
          if paymentLimit < body.length then
            (.text 413 "Failed to buffer the request body: length limit exceeded", [])
          else
            let received := Json.nat body.length
            (.json 200 (.object [("provider", .text provider),
                ("secret_name", .text metadata.secretName), ("nonce", .text metadata.nonce),
                ("signed_at", .text (Rfc3339.write metadata.timestamp)),
                ("received_bytes", received)]),
              [⟨.info, .payment, "Payment webhook accepted", [("provider", .text provider),
                ("secret_name", .text metadata.secretName), ("bytes", received)]⟩])

/-- The event of a refused request. -/
def refusedEvent (target : Log.Target) (message path : String) (refusal : Refusal) : Log.Event :=
  ⟨if refusal.isInfrastructure then .error else .warn, target, message,
    [("path", .text path), ("reason", .text refusal.code)]⟩

/-- The events of a secret that could not be obtained. -/
def secretEvents (application : Application) (path : String) : List Log.Event :=
  match application.selector.secretName path with
  | .error _ => []
  | .ok name =>
      let validator := application.webhooks
      match (validator.cache.get validator.secretTimeout validator.source name).result with
      | .ok _ => []
      | .error fault =>
          [⟨.error, .webhook, "Webhook secret resolution failed",
            [("secret_name", .text name), ("error", .text fault.message)]⟩]

/-- Answer a payment behind its guard. -/
def payment (application : Application) (moment : Moment) (request : Request)
    (provider : List Char) : Answer :=
  let judgement :=
    application.webhooks.guard application.selector moment.now moment.arrived request
  let after := { application with
    webhooks := judgement.validator
    decisions := application.decisions ++ judgement.decisions }
  match judgement.outcome with
  | .error .overflow => ⟨none, after, []⟩
  | .error (.refused refusal) =>
      ⟨some refusal.response, after, application.secretEvents request.path ++
        [refusedEvent .webhook "Webhook rejected" request.path refusal]⟩
  | .ok delivery =>
      if Methods.posting.serves request.method then
        let (response, events) :=
          takePayment provider delivery.body (Attached.nothing.withMetadata delivery.metadata)
        ⟨some response, after, events⟩
      else ⟨some (.bare 405), after, []⟩

/-- Answer a request for the service behind its guard. -/
def caller (application : Application) (guard : Service.Guard) (moment : Moment)
    (request : Request) : Answer :=
  let judgement := guard.judge moment.now moment.time moment.serviceReply request
  let after := { application with
    service := some judgement.guard
    decisions := application.decisions ++ judgement.decisions }
  let handled := Response.ofOutcome judgement.outcome fun caller =>
    Methods.reading.answer request.method
      (.ofOutcome (Attached.nothing.withCaller caller).service describeCaller)
  let events := match judgement.outcome with
    | .ok _ => []
    | .error refusal => [refusedEvent .service "Service token rejected" request.path refusal]
  ⟨some handled, after, events⟩

/-- Answer a request for the user behind its guard. -/
def user (application : Application) (guard : User.Guard) (moment : Moment)
    (request : Request) : Answer :=
  let judgement := guard.judge moment.now moment.time moment.userReply moment.userDrawn request
  let after := { application with
    users := some judgement.guard
    decisions := application.decisions ++ judgement.decisions }
  let handled := Response.ofOutcome judgement.outcome fun identity =>
    Methods.reading.answer request.method
      (.ofOutcome (Attached.nothing.withIdentity identity).user describeUser)
  let events := match judgement.outcome with
    | .ok _ => []
    | .error refusal => [refusedEvent .user "User token rejected" request.path refusal]
  ⟨some handled, after, events⟩

/-- Answer a request that no guard judges. -/
def unguarded (application : Application) (request : Request) (handled : Response) : Answer :=
  ⟨some (Methods.reading.answer request.method handled), application, []⟩

/-- Answer a request for a route. -/
def answerRoute (application : Application) (moment : Moment) (request : Request) :
    Route → Answer
  | .health =>
      if Methods.reading.serves request.method then
        let (response, application) := application.health moment
        ⟨some response, application, []⟩
      else ⟨some (.bare 405), application, []⟩
  | .liveness => application.unguarded request liveness
  | .payment provider => application.payment moment request provider
  | .caller =>
      match application.service with
      | some guard => application.caller guard moment request
      | none => ⟨some .notFound, application, []⟩
  | .user =>
      match application.users with
      | some guard => application.user guard moment request
      | none => ⟨some .notFound, application, []⟩
  | .counters =>
      let lines := (Exposition.lines application.tally).map (· ++ "\n")
      application.unguarded request (.text 200 (String.join lines))

/-- The header field of request identifiers. -/
def requestIdHeader : String := "x-request-id"

/-- The identifier of a request: the one it brings, or else a fresh one. -/
def requestId (moment : Moment) (request : Request) : String :=
  ((Header.first? request.headers requestIdHeader).bind Bytes.text?).getD moment.freshId

/-- Answer a request. -/
def respond (application : Application) (moment : Moment) (request : Request) : Answer :=
  let route := application.route? request.path
  let answer :=
    match route with
    | some route => application.answerRoute moment request route
    | none => ⟨some .notFound, application, []⟩
  let complete (response : Response) : Response :=
    let told := match route with
      | some route => route.methods.tell request.method response
      | none => response
    { told.forMethod request.method with requestId := some (requestId moment request) }
  { answer with response := answer.response.map complete }

end Application
end Admission
