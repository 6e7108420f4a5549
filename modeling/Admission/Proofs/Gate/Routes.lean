import Admission.Proofs.Application.History
import Admission.Proofs.Gate.Accounting

/-!
# Gates of the application

The application answers a request for a guarded route as its handler behind one gate does, and
keeps the record of its gates. So its counts are at every point of a history the numbers of the
requests that its guards have answered.
-/

namespace Admission.Application

variable {application : Application} {moment : Moment} {request : Request}

/-- The gates in front of a route. -/
def Route.gates (application : Application) (moment : Moment) : Route → List Gate
  | .payment _ =>
      [.webhook application.webhooks application.selector.naming moment.now moment.arrived]
  | .caller => application.service.toList.map fun guard =>
      .service guard moment.now moment.time moment.serviceReply
  | .user => application.users.toList.map fun guard =>
      .user guard moment.now moment.time moment.userReply moment.userDrawn
  | _ => []

/-- A request that arrives at the application. -/
def call (application : Application) (moment : Moment) (request : Request) : Call :=
  ⟨((application.route? request.path).map fun route => route.gates application moment).getD [],
    request⟩

/-- What the handler of a guarded route answers to a request that reaches it. -/
def Route.handle (route : Route) (passing : Passing) : Response :=
  match route with
  | .payment provider =>
      if Methods.posting.serves passing.request.method then
        (takePayment provider passing.request.body.bytes passing.attached).1
      else .bare 405
  | .caller =>
      Methods.reading.answer passing.request.method
        (.ofOutcome passing.attached.service describeCaller)
  | .user =>
      Methods.reading.answer passing.request.method
        (.ofOutcome passing.attached.user describeUser)
  | _ => .notFound

/-- A request is answered as a handler does behind one gate, which keeps the record. -/
structure Guarded (application : Application) (gate : Gate) (route : Route) (request : Request)
    (answer : Answer) : Prop where
  response : answer.response = ((Passing.through ⟨request, .nothing⟩ [gate]).ending.serve
    (fun passing (_ : Unit) => (route.handle passing, ())) ()).1
  decisions : answer.application.decisions =
    application.decisions ++ (Passing.through ⟨request, .nothing⟩ [gate]).decisions

theorem guarded_payment (provider : List Char) :
    Guarded application
      (.webhook application.webhooks application.selector.naming moment.now moment.arrived)
      (.payment provider) request (application.payment moment request provider) := by
  have complete (bytes : Bytes) : (Body.complete bytes).bytes = bytes := by
    simp [Body.complete, Body.bytes]
  constructor
  · rw [Passing.serve_through_single]
    simp only [payment, Gate.judge, Webhook.Validator.guard_eq_guardNamed]
    generalize application.webhooks.guardNamed _ _ _ _ = judgement
    cases judged : judgement.outcome with
    | ok delivery =>
        by_cases served : Methods.posting.serves request.method = true
        · simp [Ruling.ofDelivery, Route.handle, Passing.attach, served, complete]
        · simp [Ruling.ofDelivery, Route.handle, Passing.attach, served]
    | error failure => cases failure <;> rfl
  · rw [Passing.decisions_through_single]
    simp only [payment, Gate.judge, Webhook.Validator.guard_eq_guardNamed]
    generalize application.webhooks.guardNamed _ _ _ _ = judgement
    cases judged : judgement.outcome with
    | ok delivery => by_cases served : Methods.posting.serves request.method = true <;> simp [served]
    | error failure => cases failure <;> rfl

theorem guarded_caller (guard : Service.Guard) :
    Guarded application (.service guard moment.now moment.time moment.serviceReply) .caller request
      (application.caller guard moment request) := by
  constructor
  · rw [Passing.serve_through_single]
    simp only [caller, Gate.judge]
    generalize guard.judge _ _ _ _ = judgement
    cases judged : judgement.outcome <;> rfl
  · rw [Passing.decisions_through_single]
    rfl

theorem guarded_user (guard : User.Guard) :
    Guarded application
      (.user guard moment.now moment.time moment.userReply moment.userDrawn) .user request
      (application.user guard moment request) := by
  constructor
  · rw [Passing.serve_through_single]
    simp only [user, Gate.judge]
    generalize guard.judge _ _ _ _ _ = judgement
    cases judged : judgement.outcome <;> rfl
  · rw [Passing.decisions_through_single]
    rfl

theorem decisions_health : (application.health moment).2.decisions = application.decisions := by
  cases service : application.serviceKeys? with
  | none =>
      simp only [health, service]
      cases users : application.userKeys? <;> rfl
  | some keys =>
      simp only [health, service]
      cases users : (application.withServiceKeys _).userKeys? <;> rfl

theorem decisions_settle : (application.settle moment).decisions = application.decisions := by
  cases service : application.serviceKeys? with
  | none =>
      simp only [settle, service]
      cases users : application.userKeys? <;> rfl
  | some keys =>
      simp only [settle, service]
      cases users : (application.withServiceKeys _).userKeys? <;> rfl

/-- Answering a request for a route records what its gates decide. -/
theorem decisions_answerRoute (route : Route) :
    (application.answerRoute moment request route).application.decisions =
      application.decisions ++
        (Passing.through ⟨request, .nothing⟩ (route.gates application moment)).decisions := by
  cases route with
  | health =>
      simp only [answerRoute, Route.gates, Passing.through, List.append_nil]
      split
      · exact decisions_health
      · rfl
  | liveness => exact (List.append_nil _).symm
  | payment provider => exact (guarded_payment provider).decisions
  | caller =>
      cases served : application.service with
      | none =>
          simp only [answerRoute, Route.gates, served]
          exact (List.append_nil _).symm
      | some guard =>
          simp only [answerRoute, Route.gates, served]
          exact (guarded_caller guard).decisions
  | user =>
      cases served : application.users with
      | none =>
          simp only [answerRoute, Route.gates, served]
          exact (List.append_nil _).symm
      | some guard =>
          simp only [answerRoute, Route.gates, served]
          exact (guarded_user guard).decisions
  | counters => exact (List.append_nil _).symm

/-- Answering a request records what the gates in front of its handler decide. -/
theorem decisions_respond :
    (application.respond moment request).application.decisions =
      application.decisions ++ (application.call moment request).journey.decisions := by
  simp only [respond, call, Call.journey]
  cases application.route? request.path with
  | none => exact (List.append_nil _).symm
  | some route => exact decisions_answerRoute route

/-- The requests of a history, with the gates that each of them meets. -/
def calls (application : Application) : List Event → List Call
  | [] => []
  | .request moment request :: events =>
      application.call moment request ::
        (application.respond moment request).application.calls events
  | .settle moment :: events => (application.settle moment).calls events

/-- Through any history the application records what the gates decide on its requests. -/
theorem decisions_run (events : List Event) :
    (application.run events).decisions =
      application.decisions ++ Call.record (application.calls events) := by
  induction events generalizing application with
  | nil => exact (List.append_nil _).symm
  | cons event events inductionHypothesis =>
      rw [run, List.foldl_cons, ← run, inductionHypothesis]
      cases event with
      | settle moment => rw [after, decisions_settle, calls]
      | request moment request =>
          rw [after, decisions_respond, calls, List.append_assoc]
          rfl

/-- The counts of an application that starts without a record are through any history the
numbers of the requests that its guards have answered. -/
theorem counts_run (fresh : application.decisions = []) (events : List Event) {channel : Channel}
    {reason : String} {number : Nat} :
    (channel, reason, number) ∈ Decision.counts (application.run events).decisions ↔
      0 < number ∧ number =
        Passage.answered (Call.passages (application.calls events)) channel reason := by
  rw [Decision.mem_counts_iff, decisions_run, fresh, List.nil_append, Call.record_eq_flatMap,
    Passage.count_answered]

end Admission.Application
