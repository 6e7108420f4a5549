import Admission.Application.Assembly
import Admission.Proofs.KeySet.Outage
import Admission.Proofs.Outcome

/-!
# Histories of the application

A history is a sequence of requests and of ends of background refreshes, each at a moment
of its own. The guard of the user route is at every point the one that the settings
describe, over keys that were only tended. So what holds of tended keys holds of the keys
of the user route through every history.
-/

namespace Admission

namespace User

variable {project : Project} {guard : Guard} {now : Instant} {time : Nat} {reply : Reply}
  {drawn : Duration} {token : String}

/-- A project whose verifications have gone on keeps its name, and its keys are tended,
whether the caller waits or not. -/
theorem Project.verify_tended (project : Project) (now : Instant) (time : Nat) (reply : Reply)
    (token : String) :
    (∃ keys, project.keys.Tended now reply keys ∧
        (project.verify now time reply token).project = { project with keys := keys }) ∧
      ∃ keys, project.keys.Tended now reply keys ∧
        (project.verify now time reply token).abandoned = { project with keys := keys } := by
  unfold verify
  split
  · exact ⟨⟨_, .left, rfl⟩, ⟨_, .left, rfl⟩⟩
  · rename_i header _
    obtain ⟨waited, abandoned⟩ :=
      project.keys.tended_keyForHeader now header.algorithm header.keyId reply
    exact ⟨⟨_, waited, rfl⟩, ⟨_, abandoned, rfl⟩⟩

/-- A verifier that is late is given up. -/
theorem Guard.verify_of_late (late : guard.settings.verifyTimeout.nanoseconds <
      (guard.verifier.verify now time reply drawn token).delay.nanoseconds) :
    guard.verify now time reply drawn token = ⟨.error .verifierUnavailable,
      { guard with
        verifier := (guard.verifier.verify now time reply drawn token).abandoned }⟩ := by
  unfold verify
  exact if_pos late

/-- A guard without a directory keeps nothing of a verification but the verifier that answered
in time. -/
theorem Guard.verify_guard_of_inTime (unbound : guard.directory = none)
    (inTime : (guard.verifier.verify now time reply drawn token).delay.nanoseconds ≤
      guard.settings.verifyTimeout.nanoseconds) :
    (guard.verify now time reply drawn token).guard =
      { guard with
        verifier := (guard.verifier.verify now time reply drawn token).verifier } := by
  unfold verify
  simp only [if_neg (Nat.not_lt.mpr inTime)]
  split
  · rfl
  · split
    · rfl
    · simp only [Identity.bindDirectory, unbound]

end User

namespace Application

/-- The guard of the user route that settings describe, over some keys. -/
def guardOver (settings : Settings) (projectId : String) (keys : KeyCache) : User.Guard :=
  .start settings.admission (.signed ⟨projectId, keys⟩) none []

/-- What happens to the application. -/
inductive Event where
  /-- A request is answered. -/
  | request (moment : Moment) (request : Request)
  /-- The refreshes in the background come to their end. -/
  | settle (moment : Moment)

/-- The moment of an event. -/
def Event.moment : Event → Moment
  | .request moment _ => moment
  | .settle moment => moment

/-- The application after an event. -/
def after (application : Application) : Event → Application
  | .request moment request => (application.respond moment request).application
  | .settle moment => application.settle moment

/-- The application after events one after the other. -/
def run (application : Application) (events : List Event) : Application :=
  events.foldl after application

/-- The user route is guarded as settings describe, over some keys. -/
def GuardsUsers (settings : Settings) (projectId : String) (keys : KeyCache)
    (application : Application) : Prop :=
  application.users = some (guardOver settings projectId keys)

variable {settings : Settings} {projectId : String} {keys : KeyCache} {application : Application}
  {moment : Moment} {request : Request} {token : String}

theorem tended_checkKeys {now : Instant} {reply : Reply} :
    keys.Tended now reply (checkKeys keys now reply).2 := by
  have tended : keys.Tended now reply (keys.refresh now reply).2 := .refreshed
  unfold checkKeys
  split
  · exact .left
  · exact .left
  · split <;> rename_i same <;> rwa [same] at tended

theorem users_payment {provider : List Char} :
    (application.payment moment request provider).application.users = application.users := by
  unfold payment
  simp only
  split
  · rfl
  · rfl
  · split <;> rfl

/-- Authenticating a request for the user tends the keys of its guard. -/
theorem authenticate_guardOver (settings : Settings) (projectId : String) (keys : KeyCache)
    (moment : Moment) (request : Request) :
    ∃ other, keys.Tended moment.now moment.userReply other ∧
      ((guardOver settings projectId keys).authenticate moment.now moment.time moment.userReply
        moment.userDrawn request).guard = guardOver settings projectId other := by
  unfold User.Guard.authenticate
  split
  · exact ⟨keys, .left, rfl⟩
  · rename_i token _
    obtain ⟨⟨waited, tendedWaited, project⟩, ⟨left, tendedLeft, abandoned⟩⟩ :=
      User.Project.verify_tended ⟨projectId, keys⟩ moment.now moment.time moment.userReply token
    rcases Nat.lt_or_ge settings.admission.verifyTimeout.nanoseconds
      ((User.Verifier.signed ⟨projectId, keys⟩).verify moment.now moment.time moment.userReply
        moment.userDrawn token).delay.nanoseconds with late | inTime
    · refine ⟨left, tendedLeft, ?_⟩
      rw [User.Guard.verify_of_late late]
      simp only [guardOver, User.Guard.start, User.Verifier.verify, abandoned]
    · refine ⟨waited, tendedWaited, ?_⟩
      rw [User.Guard.verify_guard_of_inTime rfl inTime]
      simp only [guardOver, User.Guard.start, User.Verifier.verify, project]

/-- A request that a fetch cannot make late leaves the keys as its lookup leaves them. -/
theorem authenticate_guardOver_of_prompt {header : Token.Header}
    (prompt : (KeyCache.waiting keys.settings moment.userDrawn moment.userReply).nanoseconds ≤
      settings.admission.verifyTimeout.nanoseconds)
    (carried : Bearer.token? request.headers = some token)
    (read : Token.Header.ofToken token = .ok header) :
    ((guardOver settings projectId keys).authenticate moment.now moment.time moment.userReply
        moment.userDrawn request).guard =
      guardOver settings projectId
        (keys.keyForHeader moment.now header.algorithm header.keyId moment.userReply).cache := by
  have inTime : ((guardOver settings projectId keys).verifier.verify moment.now moment.time
      moment.userReply moment.userDrawn token).delay.nanoseconds ≤
        (guardOver settings projectId keys).settings.verifyTimeout.nanoseconds := by
    simp only [guardOver, User.Guard.start, User.Verifier.verify]
    split
    · exact prompt
    · exact Nat.zero_le _
  rw [User.Guard.authenticate, carried]
  simp only [User.Guard.verify_guard_of_inTime rfl inTime]
  simp only [guardOver, User.Guard.start, User.Verifier.verify, User.Project.verify, read]

namespace GuardsUsers

variable (guards : GuardsUsers settings projectId keys application)

include guards

theorem userKeys? : application.userKeys? = some keys := by
  rw [GuardsUsers] at guards
  rw [Application.userKeys?, guards]
  rfl

theorem withUserKeys (other : KeyCache) :
    GuardsUsers settings projectId other (application.withUserKeys other) := by
  rw [GuardsUsers] at guards
  rw [GuardsUsers, Application.withUserKeys, guards]
  rfl

theorem withServiceKeys (other : KeyCache) :
    GuardsUsers settings projectId keys (application.withServiceKeys other) := guards

/-- Refreshes in the background tend the keys of the user route. -/
theorem settle : ∃ other, keys.Tended moment.now moment.userReply other ∧
    GuardsUsers settings projectId other (application.settle moment) := by
  cases service : application.serviceKeys? with
  | none =>
      simp only [Application.settle, service, guards.userKeys?]
      exact ⟨_, .settled, guards.withUserKeys _⟩
  | some keys =>
      simp only [Application.settle, service, (guards.withServiceKeys _).userKeys?]
      exact ⟨_, .settled, (guards.withServiceKeys _).withUserKeys _⟩

/-- A check of health tends the keys of the user route. -/
theorem health : ∃ other, keys.Tended moment.now moment.userReply other ∧
    GuardsUsers settings projectId other (application.health moment).2 := by
  cases service : application.serviceKeys? with
  | none =>
      simp only [Application.health, service, guards.userKeys?]
      exact ⟨_, tended_checkKeys, guards.withUserKeys _⟩
  | some keys =>
      simp only [Application.health, service, (guards.withServiceKeys _).userKeys?]
      exact ⟨_, tended_checkKeys, (guards.withServiceKeys _).withUserKeys _⟩

/-- Whatever the route of a request, answering it tends the keys of the user route. -/
theorem answerRoute (route : Route) : ∃ other, keys.Tended moment.now moment.userReply other ∧
    GuardsUsers settings projectId other
      (application.answerRoute moment request route).application := by
  have left : ∃ other, keys.Tended moment.now moment.userReply other ∧
      GuardsUsers settings projectId other application := ⟨keys, .left, guards⟩
  cases route with
  | health =>
      simp only [Application.answerRoute]
      split
      · exact guards.health
      · exact left
  | liveness => exact left
  | payment provider => exact ⟨keys, .left, users_payment.trans guards⟩
  | caller =>
      simp only [Application.answerRoute]
      split
      · exact left
      · exact left
  | user =>
      obtain ⟨other, tended, same⟩ := authenticate_guardOver settings projectId keys moment request
      rw [GuardsUsers] at guards
      simp only [Application.answerRoute, guards]
      exact ⟨other, tended, congrArg some same⟩
  | counters => exact left

/-- A request for the user leaves the guard that authenticating it leaves. -/
theorem respond_user (moment : Moment) (request : Request) (asks : request.path = "/v1/me") :
    (application.respond moment request).application.users =
      some ((guardOver settings projectId keys).authenticate moment.now moment.time
        moment.userReply moment.userDrawn request).guard := by
  rw [GuardsUsers] at guards
  have route : application.route? request.path = some .user := by
    simp [route?, asks, guards]
  simp only [respond, route, Application.answerRoute, guards]
  rfl

/-- Every event tends the keys of the user route. -/
theorem after (event : Event) :
    ∃ other, keys.Tended event.moment.now event.moment.userReply other ∧
      GuardsUsers settings projectId other (application.after event) := by
  cases event with
  | settle moment => exact guards.settle
  | request moment request =>
      simp only [Application.after, respond]
      split
      · exact guards.answerRoute _
      · exact ⟨keys, .left, guards⟩

/-- What tending the keys preserves at every moment of a history holds of the keys after
it, and the guard stays the one that the settings describe. -/
theorem run {Kept : KeyCache → Prop} (kept : Kept keys) (events : List Event)
    (preserved : ∀ event ∈ events, ∀ before after : KeyCache, Kept before →
      before.Tended event.moment.now event.moment.userReply after → Kept after) :
    ∃ other, Kept other ∧ GuardsUsers settings projectId other (application.run events) := by
  induction events generalizing keys application with
  | nil => exact ⟨keys, kept, guards⟩
  | cons event events inductionHypothesis =>
      obtain ⟨other, tended, guards⟩ := guards.after event
      exact inductionHypothesis guards (preserved event List.mem_cons_self keys other kept tended)
        fun later among => preserved later (List.mem_cons_of_mem _ among)

end GuardsUsers

/-- The application that settings describe guards its user route, if it has one, over keys
that were never fetched. -/
theorem guardsUsers_ofSettings {environment : List (String × Bytes)}
    {routes : Settings.UserRoutes} (configured : settings.users = some routes)
    (assembled : ofSettings settings environment = .ok application) :
    GuardsUsers settings routes.projectId (.cold settings.keys) application := by
  simp only [ofSettings, Outcome.bind_eq_ok_iff] at assembled
  obtain ⟨service, _, users, guarded, assembled⟩ := assembled
  cases assembled
  simp only [userGuard, configured, KeyCache.atAddress] at guarded
  cases checked : KeyCache.checkAddress routes.keyAddress with
  | error fault =>
      rw [checked] at guarded
      cases guarded
  | ok _ =>
      rw [checked] at guarded
      cases guarded
      rfl

end Application
end Admission
