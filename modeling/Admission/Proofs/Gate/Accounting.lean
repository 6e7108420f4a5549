import Admission.Proofs.Bearer
import Admission.Proofs.Gate.Journey

/-!
# Accounts of guarded requests

A gate decides once on each request: either it records that the request was admitted and the
handler runs once, on the request with what was verified, or it records the code of a refusal and
answers with it, and the handler does not run. So in the record of any requests, whichever guards
they met and in whatever order these came to record, the count of a channel and a reason is the
number of requests that its guards answered for that reason.
-/

namespace Admission

theorem Attached.demand_eq_ok_iff {Admitted : Type} {part : Option Admitted} {value : Admitted} :
    demand part = .ok value ↔ part = some value := by
  cases part <;> simp [demand]

/-- A refused request is told that it is malformed, not admitted, or cannot be served now. -/
theorem Refusal.status_mem (refusal : Refusal) : refusal.status ∈ [400, 401, 503] := by
  cases refusal <;> decide

namespace Gate

variable {gate : Gate} {passing : Passing} {credential : Credential} {refusal : Refusal}

/-- A gate admits a request, and the handler runs once on what it lets through. -/
structure Admits (gate : Gate) (passing : Passing) (credential : Credential) : Prop where
  accepts : gate.Accepts passing.request credential
  recorded : (passing.through [gate]).decisions.map Decision.told =
    [(gate.channel, true, Decision.okReason)]
  handled : ∀ {World : Type} (handler : Passing → World → Response × World) (world : World),
    (passing.through [gate]).ending.serve handler world =
      (some (handler (passing.attach credential) world).1,
        (handler (passing.attach credential) world).2)
  alike : (passing.attach credential).request.Alike passing.request
  found : (passing.attach credential).Finds credential

/-- A gate answers a request with a refusal, and the handler does not run. -/
structure Rejects (gate : Gate) (passing : Passing) (refusal : Refusal) : Prop where
  refuses : gate.Refuses passing.request refusal
  recorded : (passing.through [gate]).decisions.map Decision.told =
    [(gate.channel, false, refusal.code)]
  answered : ∀ {World : Type} (handler : Passing → World → Response × World) (world : World),
    (passing.through [gate]).ending.serve handler world = (some refusal.response, world)
  status : refusal.response.status = refusal.status ∧ refusal.status ∈ [400, 401, 503]
  coded : ∃ body, refusal.response.content = .json body ∧
    body.member? "error_code" = some (.text refusal.code)

theorem Accepts.admits (accepts : gate.Accepts passing.request credential) :
    gate.Admits passing credential where
  accepts := accepts
  recorded := by
    rw [Passing.through_of_accepts accepts]
    rfl
  handled := by
    intro World handler world
    rw [Passing.through_of_accepts accepts]
    rfl
  alike := Passing.alike_attach accepts
  found := passing.finds_attach credential

theorem Refuses.rejects (refuses : gate.Refuses passing.request refusal) :
    gate.Rejects passing refusal where
  refuses := refuses
  recorded := by
    rw [Passing.through_of_refuses refuses]
    rfl
  answered := by
    intro World handler world
    rw [Passing.through_of_refuses refuses]
    rfl
  status := ⟨rfl, refusal.status_mem⟩
  coded := ⟨_, rfl, rfl⟩

/-- Where its settings last, a gate either admits a request or rejects it. -/
theorem decides (gate : Gate) (passing : Passing) (lasting : gate.Lasting) :
    (∃ credential, gate.Admits passing credential) ∨ ∃ refusal, gate.Rejects passing refusal := by
  have judges := gate.judges passing.request
  generalize gate.judge passing.request = judged at judges
  cases judges with
  | admits accepts => exact .inl ⟨_, accepts.admits⟩
  | refuses refuses => exact .inr ⟨_, refuses.rejects⟩
  | halts unlasting => exact absurd lasting unlasting

end Gate

/-- A request that arrives, with the gates in front of its handler. -/
structure Call where
  gates : List Gate
  request : Request

namespace Call

/-- The way of a request that nothing is attached to yet. -/
def journey (call : Call) : Journey := Passing.through ⟨call.request, .nothing⟩ call.gates

/-- Everything that the guards of some requests record, request by request. -/
def record (calls : List Call) : List Decision := calls.flatMap fun call => call.journey.decisions

/-- The gates that some requests reached. -/
def passages (calls : List Call) : List Passage := calls.flatMap fun call => call.journey.passages

end Call

namespace Passage

/-- How many requests the gates of a channel answered for a reason. -/
def answered (passages : List Passage) (channel : Channel) (reason : String) : Nat :=
  passages.countP fun passage => passage.gate.channel = channel ∧ passage.Answered reason

/-- What gates record of the requests that reached them counts those that they answered. -/
theorem count_answered (passages : List Passage) (channel : Channel) (reason : String) :
    Decision.count (passages.flatMap fun passage => passage.judged.decisions) channel reason =
      answered passages channel reason := by
  induction passages with
  | nil => rfl
  | cons passage passages inductionHypothesis =>
      rw [List.flatMap_cons, Decision.count_append, count_judged, inductionHypothesis, answered,
        answered, List.countP_cons, Nat.add_comm]
      simp only [decide_eq_true_eq]

end Passage

namespace Call

variable {call : Call} {calls : List Call} {onward : Passing}

theorem record_eq_flatMap (calls : List Call) :
    record calls = (passages calls).flatMap fun passage => passage.judged.decisions := by
  simp only [record, passages, List.flatMap_assoc, journey, Passing.decisions_through]

/-- A handler finds a part attached only where a gate on the way has verified it. -/
theorem verified_of_held {Part : Type} {held : Attached → Option Part}
    {shown : Credential → Option Part}
    (attach : ∀ (passing : Passing) credential,
      held (passing.attach credential).attached = (shown credential).or (held passing.attached))
    (bare : held .nothing = none) {part : Part} (arrives : call.journey.ending = .arrived onward)
    (found : Attached.demand (held onward.attached) = .ok part) :
    ∃ passage ∈ call.journey.passages, ∃ credential,
      passage.gate.Accepts passage.request credential ∧ shown credential = some part := by
  rcases Passing.attached_through attach arrives (Attached.demand_eq_ok_iff.mp found) with
    before | verified
  · rw [bare] at before
    cases before
  · exact verified

theorem webhook_verified {metadata : Webhook.Metadata}
    (arrives : call.journey.ending = .arrived onward)
    (found : onward.attached.webhook = .ok metadata) :
    ∃ passage ∈ call.journey.passages, ∃ body,
      passage.gate.Accepts passage.request (.webhook ⟨metadata, body⟩) := by
  obtain ⟨passage, among, credential, accepts, shows⟩ :=
    verified_of_held Passing.metadata_attach rfl arrives found
  cases credential <;> cases shows
  exact ⟨passage, among, _, accepts⟩

theorem service_verified {caller : Service.Caller}
    (arrives : call.journey.ending = .arrived onward)
    (found : onward.attached.service = .ok caller) :
    ∃ passage ∈ call.journey.passages, passage.gate.Accepts passage.request (.service caller) := by
  obtain ⟨passage, among, credential, accepts, shows⟩ :=
    verified_of_held Passing.caller_attach rfl arrives found
  cases credential <;> cases shows
  exact ⟨passage, among, accepts⟩

theorem user_verified {identity : Identity}
    (arrives : call.journey.ending = .arrived onward)
    (found : onward.attached.user = .ok identity) :
    ∃ passage ∈ call.journey.passages, passage.gate.Accepts passage.request (.user identity) := by
  obtain ⟨passage, among, credential, accepts, shows⟩ :=
    verified_of_held Passing.identity_attach rfl arrives found
  cases credential <;> cases shows
  exact ⟨passage, among, accepts⟩

end Call

/-- Every gate decides once on every request that reaches it, the webhook guard over any selector
among them. The counts of a record of requests, taken down in any order, are the numbers of
requests answered. And a handler finds attached only what a gate in front of it has verified. -/
theorem guarded_requests_accounted :
    (∀ (validator : Webhook.Validator) (selector : Webhook.Selector) (asked stored : Instant)
        (request : Request),
        (Gate.webhook validator selector.naming asked stored).judge request =
          ⟨.ofDelivery (validator.guard selector asked stored request).outcome,
            (validator.guard selector asked stored request).decisions⟩) ∧
      (∀ (gate : Gate) (passing : Passing), gate.Lasting →
        (∃ credential, gate.Admits passing credential) ∨
          ∃ refusal, gate.Rejects passing refusal) ∧
      (∀ (calls : List Call) (record : List Decision), record.Perm (Call.record calls) →
        ∀ channel reason number, (channel, reason, number) ∈ Decision.counts record ↔
          0 < number ∧ number = Passage.answered (Call.passages calls) channel reason) ∧
      ∀ (call : Call) (onward : Passing), call.journey.ending = .arrived onward →
        (∀ metadata, onward.attached.webhook = .ok metadata →
            ∃ passage ∈ call.journey.passages, ∃ body,
              passage.gate.Accepts passage.request (.webhook ⟨metadata, body⟩)) ∧
          (∀ caller, onward.attached.service = .ok caller →
            ∃ passage ∈ call.journey.passages,
              passage.gate.Accepts passage.request (.service caller)) ∧
          ∀ identity, onward.attached.user = .ok identity →
            ∃ passage ∈ call.journey.passages,
              passage.gate.Accepts passage.request (.user identity) := by
  refine ⟨Gate.judge_webhook, Gate.decides, ?counted, ?attached⟩
  case counted =>
    intro calls record taken channel reason number
    rw [Decision.mem_counts_iff, Decision.count_perm taken, Call.record_eq_flatMap,
      Passage.count_answered]
  case attached =>
    intro call onward arrives
    exact ⟨fun _ => Call.webhook_verified arrives, fun _ => Call.service_verified arrives,
      fun _ => Call.user_verified arrives⟩

namespace Call.Sample

/-- A webhook guard without the name of a secret. -/
def unnamed : Gate :=
  .webhook (.fresh .standard "hooks" ⟨[1]⟩) (Webhook.Selector.fixed " ").naming .epoch .epoch

/-- A service guard. -/
def services : Gate :=
  .service ⟨⟨"demo", [], Service.defaultLeeway⟩, .cold .standard⟩ .epoch 0 .unreachable

/-- A user guard that knows one token. -/
def users : Gate :=
  .user (.start .standard (.table [("viewer", .ok ⟨"uid", [("roles", .text "viewer")]⟩)] ⟨0⟩) none
    []) .epoch 0 .unreachable ⟨0⟩

/-- A request with the token. -/
def asking : Request := ⟨"GET", "/v1/me", [Bearer.field "viewer"], .complete []⟩

/-- A request without any token. -/
def silent : Request := ⟨"GET", "/internal/whoami", [], .complete []⟩

/-- One request for each guard. -/
def calls : List Call := [⟨[unnamed], silent⟩, ⟨[services], silent⟩, ⟨[users], asking⟩]

/-- The user that the token stands for. -/
def viewer : Identity where
  uid := "uid"
  email := none
  roles := ["viewer"]
  locale := none
  claims := [("roles", .text "viewer")]
  token := "viewer"
  loader := none

theorem users_accepts : users.Accepts asking (.user viewer) :=
  .user (Bearer.token?_of_plain (by decide) (by decide) []) rfl

theorem unnamed_refuses : unnamed.Refuses silent .secretNotConfigured := .unnamed (by decide)

/-- One user is admitted and found attached, and a webhook and a service are turned away: each is
counted once. -/
theorem calls_accounted :
    (∃ credential, users.Admits ⟨asking, .nothing⟩ credential) ∧
      unnamed.Lasting ∧ (∃ refusal, unnamed.Rejects ⟨silent, .nothing⟩ refusal) ∧
      (Channel.user, "ok", 1) ∈ Decision.counts (record calls).reverse ∧
      (Channel.service, "token_missing", 1) ∈ Decision.counts (record calls).reverse ∧
      (Channel.webhook, "secret_not_configured", 1) ∈ Decision.counts (record calls).reverse ∧
      ∃ onward, (journey ⟨[users], asking⟩).ending = .arrived onward ∧
        onward.attached.user = .ok viewer ∧
        ∃ passage ∈ (journey ⟨[users], asking⟩).passages,
          passage.gate.Accepts passage.request (.user viewer) := by
  obtain ⟨_, decided, counted, attached⟩ := guarded_requests_accounted
  have lasting : unnamed.Lasting := ⟨⟨600000000000⟩, by decide⟩
  have recorded := counted calls (record calls).reverse (List.reverse_perm _)
  have arrives : (journey ⟨[users], asking⟩).ending =
      .arrived (Passing.attach ⟨asking, .nothing⟩ (.user viewer)) := by
    rw [journey, Passing.through_of_accepts users_accepts]
    rfl
  refine ⟨?admitted, lasting, ?rejected, (recorded ..).mpr ?user, (recorded ..).mpr ?service,
    (recorded ..).mpr ?webhook, _, arrives, rfl, (attached _ _ arrives).2.2 viewer rfl⟩
  case admitted =>
    rcases decided users ⟨asking, .nothing⟩ trivial with admits | ⟨refusal, rejects⟩
    · exact admits
    · have refused := rejects.refuses.judge
      rw [users_accepts.judge] at refused
      cases refused
  case rejected =>
    rcases decided unnamed ⟨silent, .nothing⟩ lasting with ⟨credential, admits⟩ | rejects
    · have admitted := admits.accepts.judge
      rw [unnamed_refuses.judge] at admitted
      cases admitted
    · exact rejects
  case user => decide +kernel
  case service => decide +kernel
  case webhook => decide +kernel

end Call.Sample

end Admission
