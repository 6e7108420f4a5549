import Admission.Proofs.Decision
import Admission.Proofs.Gate.Judging

/-!
# Requests behind gates

A request passes the gates in front of its handler one by one. Each gate that it reaches either
attaches what it has verified and lets it on, or answers it in the place of the handler. The
record of the guards holds one decision for each gate that a request reached, so its counts are
the numbers of requests that the guards of a channel answered with an outcome; and a handler
finds attached what some gate on the way has verified, and nothing else.
-/

namespace Admission

/-- A request on its way to its handler, with what is attached to it. -/
structure Passing where
  request : Request
  attached : Attached

namespace Credential

/-- What is known of a verified webhook. -/
def metadata? : Credential → Option Webhook.Metadata
  | .webhook delivery => some delivery.metadata
  | _ => none

/-- The verified service. -/
def caller? : Credential → Option Service.Caller
  | .service caller => some caller
  | _ => none

/-- The verified user. -/
def identity? : Credential → Option Identity
  | .user identity => some identity
  | _ => none

end Credential

namespace Passing

/-- The request with what a gate has verified of it. The body of a webhook has been gathered. -/
def attach (passing : Passing) : Credential → Passing
  | .webhook delivery =>
      ⟨{ passing.request with body := .complete delivery.body },
        passing.attached.withMetadata delivery.metadata⟩
  | .service caller => ⟨passing.request, passing.attached.withCaller caller⟩
  | .user identity => ⟨passing.request, passing.attached.withIdentity identity⟩

variable (passing : Passing) (credential : Credential)

theorem metadata_attach : (passing.attach credential).attached.metadata =
    credential.metadata?.or passing.attached.metadata := by
  cases credential <;> rfl

theorem caller_attach : (passing.attach credential).attached.caller =
    credential.caller?.or passing.attached.caller := by
  cases credential <;> rfl

theorem identity_attach : (passing.attach credential).attached.identity =
    credential.identity?.or passing.attached.identity := by
  cases credential <;> rfl

/-- A handler finds what was verified. -/
def Finds (passing : Passing) : Credential → Prop
  | .webhook delivery => passing.attached.webhook = .ok delivery.metadata
  | .service caller => passing.attached.service = .ok caller
  | .user identity => passing.attached.user = .ok identity

theorem finds_attach : (passing.attach credential).Finds credential := by
  cases credential <;> rfl

end Passing

/-- Two requests say the same, whatever the chunks of their bodies. -/
structure Request.Alike (first second : Request) : Prop where
  method : first.method = second.method
  target : first.target = second.target
  headers : first.headers = second.headers
  body : first.body.bytes = second.body.bytes

theorem Passing.alike_attach {passing : Passing} {gate : Gate} {credential : Credential}
    (accepts : gate.Accepts passing.request credential) :
    (passing.attach credential).request.Alike passing.request := by
  cases accepts with
  | webhook named verified =>
      have same := Webhook.Validator.verify_body verified
      exact ⟨rfl, rfl, rfl, by simp [attach, Body.complete, Body.bytes, same]⟩
  | service carried verified => exact ⟨rfl, rfl, rfl, rfl⟩
  | user carried verified => exact ⟨rfl, rfl, rfl, rfl⟩

/-- A request that has reached a gate. -/
structure Passage where
  gate : Gate
  request : Request

namespace Passage

/-- The ruling on the request and the decisions that are recorded for it. -/
def judged (passage : Passage) : Gate.Judged := passage.gate.judge passage.request

/-- A request is answered for a reason: it is admitted, or refused by a code. -/
def Answered (passage : Passage) (reason : String) : Prop :=
  (reason = Decision.okReason ∧ ∃ credential, passage.gate.Accepts passage.request credential) ∨
    ∃ refusal : Refusal, reason = refusal.code ∧ passage.gate.Refuses passage.request refusal

variable {passage : Passage} {channel : Channel} {reason : String}

/-- No refusal has the code of an admitted request. -/
theorem code_ne_okReason (refusal : Refusal) : refusal.code ≠ Decision.okReason := by
  cases refusal <;> decide

theorem answered_iff : passage.Answered reason ↔ passage.judged.ruling.reason? = some reason := by
  simp only [Answered, Gate.accepts_iff, Gate.refuses_iff, judged]
  cases passage.gate.judge passage.request |>.ruling with
  | admitted credential => simp [Ruling.reason?, eq_comm]
  | refused refusal => simp [Ruling.reason?, eq_comm]
  | halted => simp [Ruling.reason?]

instance (passage : Passage) (reason : String) : Decidable (passage.Answered reason) :=
  decidable_of_iff _ answered_iff.symm

/-- A gate records one decision for a request that it answers, and none for another. -/
theorem count_judged (passage : Passage) (channel : Channel) (reason : String) :
    Decision.count passage.judged.decisions channel reason =
      if passage.gate.channel = channel ∧ passage.Answered reason then 1 else 0 := by
  simp only [answered_iff]
  have judges : passage.gate.Judges passage.request passage.judged :=
    passage.gate.judges passage.request
  generalize passage.judged = judged at judges
  cases judges with
  | admits accepts => simp [Decision.count_singleton, Decision.ofOutcome, Ruling.reason?]
  | refuses refuses => simp [Decision.count_singleton, Decision.ofOutcome, Ruling.reason?]
  | halts unlasting => simp [Ruling.reason?]

end Passage

/-- Where a request ends up behind gates. -/
inductive Ending where
  /-- The request reaches its handler. -/
  | arrived (passing : Passing)
  | refused (refusal : Refusal)
  | halted

namespace Ending

/-- The response and the world after it: the handler's where the request reaches it, else the
answer to a refused request in an unchanged world. -/
def serve {World : Type} (ending : Ending) (handler : Passing → World → Response × World)
    (world : World) : Option Response × World :=
  match ending with
  | .arrived passing => (some (handler passing world).1, (handler passing world).2)
  | .refused refusal => (some refusal.response, world)
  | .halted => (none, world)

end Ending

/-- The way of a request through gates. -/
structure Journey where
  ending : Ending
  passages : List Passage
  decisions : List Decision

namespace Passing

/-- The way of a request through gates, the outermost first. -/
def through (passing : Passing) : List Gate → Journey
  | [] => ⟨.arrived passing, [], []⟩
  | gate :: inner =>
      let passage : Passage := ⟨gate, passing.request⟩
      match passage.judged.ruling with
      | .admitted credential =>
          let onward := (passing.attach credential).through inner
          ⟨onward.ending, passage :: onward.passages,
            passage.judged.decisions ++ onward.decisions⟩
      | .refused refusal => ⟨.refused refusal, [passage], passage.judged.decisions⟩
      | .halted => ⟨.halted, [passage], passage.judged.decisions⟩

variable {passing onward : Passing} {gate : Gate} {gates : List Gate}

theorem through_of_accepts {credential : Credential}
    (accepts : gate.Accepts passing.request credential) (inner : List Gate) :
    passing.through (gate :: inner) =
      ⟨((passing.attach credential).through inner).ending,
        ⟨gate, passing.request⟩ :: ((passing.attach credential).through inner).passages,
        .ofOutcome gate.channel none :: ((passing.attach credential).through inner).decisions⟩ := by
  simp only [through, Passage.judged, accepts.judge, List.cons_append, List.nil_append]

theorem through_of_refuses {refusal : Refusal} (refuses : gate.Refuses passing.request refusal)
    (inner : List Gate) :
    passing.through (gate :: inner) =
      ⟨.refused refusal, [⟨gate, passing.request⟩],
        [.ofOutcome gate.channel (some refusal)]⟩ := by
  simp only [through, Passage.judged, refuses.judge]

theorem decisions_through_single (passing : Passing) (gate : Gate) :
    (passing.through [gate]).decisions = (gate.judge passing.request).decisions := by
  rw [through, Passage.judged]
  cases (gate.judge passing.request).ruling <;> simp [through]

/-- Behind one gate a handler serves what the gate admits. -/
theorem serve_through_single {World : Type} (passing : Passing) (gate : Gate)
    (handler : Passing → World → Response × World) (world : World) :
    (passing.through [gate]).ending.serve handler world =
      match (gate.judge passing.request).ruling with
      | .admitted credential => (some (handler (passing.attach credential) world).1,
          (handler (passing.attach credential) world).2)
      | .refused refusal => (some refusal.response, world)
      | .halted => (none, world) := by
  rw [through, Passage.judged]
  cases (gate.judge passing.request).ruling <;> rfl

/-- A journey records what each gate on the way records. -/
theorem decisions_through (passing : Passing) (gates : List Gate) :
    (passing.through gates).decisions =
      (passing.through gates).passages.flatMap fun passage => passage.judged.decisions := by
  induction gates generalizing passing with
  | nil => rfl
  | cons gate inner inductionHypothesis =>
      rw [through]
      cases ruled : (Passage.judged ⟨gate, passing.request⟩).ruling with
      | admitted credential => simp [inductionHypothesis]
      | refused refusal => simp
      | halted => simp

/-- What a handler finds attached was attached before, or verified by a gate on the way. -/
theorem attached_through {Part : Type} {held : Attached → Option Part}
    {shown : Credential → Option Part}
    (attach : ∀ (passing : Passing) credential,
      held (passing.attach credential).attached = (shown credential).or (held passing.attached))
    {part : Part} (arrives : (passing.through gates).ending = .arrived onward)
    (holds : held onward.attached = some part) :
    held passing.attached = some part ∨
      ∃ passage ∈ (passing.through gates).passages, ∃ credential,
        passage.gate.Accepts passage.request credential ∧ shown credential = some part := by
  induction gates generalizing passing with
  | nil =>
      cases arrives
      exact .inl holds
  | cons gate inner inductionHypothesis =>
      rw [through] at arrives ⊢
      cases ruled : (Passage.judged ⟨gate, passing.request⟩).ruling with
      | admitted credential =>
          simp only [ruled] at arrives ⊢
          rcases inductionHypothesis arrives with before | ⟨passage, among, verified⟩
          · rw [attach] at before
            cases shows : shown credential with
            | none =>
                rw [shows, Option.none_or] at before
                exact .inl before
            | some other =>
                rw [shows, Option.some_or] at before
                exact .inr ⟨_, List.mem_cons_self, credential, Gate.accepts_iff.mpr ruled,
                  shows.trans before⟩
          · exact .inr ⟨passage, List.mem_cons_of_mem _ among, verified⟩
      | refused refusal =>
          simp only [ruled] at arrives
          cases arrives
      | halted =>
          simp only [ruled] at arrives
          cases arrives

end Passing

end Admission
