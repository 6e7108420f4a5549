import Admission.Attached
import Admission.Proofs.Webhook.Guarding

/-!
# Guards as gates

A gate is a guard in whatever state a request finds it, with what surrounds the request there.
Each gate admits the request with what it has verified, or refuses it, and records the one
decision that says so. Only a webhook guard whose settings leave no lifetime for nonces may come
to no decision.
-/

namespace Admission

/-- A guard as a request finds it. -/
inductive Gate where
  | webhook (validator : Webhook.Validator) (naming : Webhook.Naming)
      (asked stored : Instant)
  | service (guard : Service.Guard) (now : Instant) (time : Nat) (reply : Reply)
  | user (guard : User.Guard) (now : Instant) (time : Nat) (reply : Reply) (drawn : Duration)

/-- What a gate has verified of a request that it admits. -/
inductive Credential where
  | webhook (delivery : Webhook.Delivery)
  | service (caller : Service.Caller)
  | user (identity : Identity)

/-- What becomes of a request at a gate. -/
inductive Ruling where
  | admitted (credential : Credential)
  | refused (refusal : Refusal)
  /-- The gate cannot go on. -/
  | halted

namespace Ruling

/-- The ruling of a webhook guard. -/
def ofDelivery : Except Webhook.Failure Webhook.Delivery → Ruling
  | .ok delivery => .admitted (.webhook delivery)
  | .error (.refused refusal) => .refused refusal
  | .error .overflow => .halted

/-- The ruling of a guard that always comes to an outcome. -/
def ofOutcome {Admitted : Type} (credential : Admitted → Credential) :
    Except Refusal Admitted → Ruling
  | .ok value => .admitted (credential value)
  | .error refusal => .refused refusal

/-- The reason that is recorded for a ruling. -/
def reason? : Ruling → Option String
  | .admitted _ => some Decision.okReason
  | .refused refusal => some refusal.code
  | .halted => none

end Ruling

namespace Gate

/-- A ruling with the decisions that are recorded for it. -/
structure Judged where
  ruling : Ruling
  decisions : List Decision

/-- The channel that a gate guards. -/
def channel : Gate → Channel
  | .webhook .. => .webhook
  | .service .. => .service
  | .user .. => .user

/-- Have a gate judge a request. -/
def judge (gate : Gate) (request : Request) : Judged :=
  match gate with
  | .webhook validator naming asked stored =>
      let judgement := validator.guardNamed (naming.secretName request) asked stored request
      ⟨.ofDelivery judgement.outcome, judgement.decisions⟩
  | .service guard now time reply =>
      let judgement := guard.judge now time reply request
      ⟨.ofOutcome .service judgement.outcome, judgement.decisions⟩
  | .user guard now time reply drawn =>
      let judgement := guard.judge now time reply drawn request
      ⟨.ofOutcome .user judgement.outcome, judgement.decisions⟩

/-- A gate that names secrets by a selector judges as the guard over this selector does. -/
theorem judge_webhook (validator : Webhook.Validator) (selector : Webhook.Selector)
    (asked stored : Instant) (request : Request) :
    (Gate.webhook validator selector.naming asked stored).judge request =
      ⟨.ofDelivery (validator.guard selector asked stored request).outcome,
        (validator.guard selector asked stored request).decisions⟩ := by
  rw [judge, Webhook.Validator.guard_eq_guardNamed]

/-- The settings of a gate leave a lifetime for nonces, if it uses any. -/
def Lasting : Gate → Prop
  | .webhook validator _ _ _ => ∃ lifetime, validator.settings.effectiveLifetime? = some lifetime
  | _ => True

/-- A gate verifies a request. -/
inductive Accepts (request : Request) : Gate → Credential → Prop where
  | webhook {validator naming asked stored name delivery}
      (named : naming.secretName request = .ok name)
      (verified : (validator.verify asked stored name request).outcome = .ok delivery) :
      Accepts request (.webhook validator naming asked stored) (.webhook delivery)
  | service {guard now time reply token source caller}
      (carried : Service.token? request.headers = some (token, source))
      (verified : (Service.verify guard.settings guard.keys now time reply token source).outcome =
        .ok caller) :
      Accepts request (.service guard now time reply) (.service caller)
  | user {guard now time reply drawn token identity}
      (carried : Bearer.token? request.headers = some token)
      (verified : (guard.verify now time reply drawn token).outcome = .ok identity) :
      Accepts request (.user guard now time reply drawn) (.user identity)

/-- A gate finds a request wanting. -/
inductive Refuses (request : Request) : Gate → Refusal → Prop where
  | unnamed {validator naming asked stored refusal}
      (named : naming.secretName request = .error refusal) :
      Refuses request (.webhook validator naming asked stored) refusal
  | webhook {validator naming asked stored name refusal}
      (named : naming.secretName request = .ok name)
      (verified : (validator.verify asked stored name request).outcome =
        .error (.refused refusal)) :
      Refuses request (.webhook validator naming asked stored) refusal
  | tokenless {guard now time reply} (carried : Service.token? request.headers = none) :
      Refuses request (.service guard now time reply) .tokenMissing
  | service {guard now time reply token source refusal}
      (carried : Service.token? request.headers = some (token, source))
      (verified : (Service.verify guard.settings guard.keys now time reply token source).outcome =
        .error refusal) :
      Refuses request (.service guard now time reply) refusal
  | bearerless {guard now time reply drawn} (carried : Bearer.token? request.headers = none) :
      Refuses request (.user guard now time reply drawn) .tokenMissing
  | user {guard now time reply drawn token refusal}
      (carried : Bearer.token? request.headers = some token)
      (verified : (guard.verify now time reply drawn token).outcome = .error refusal) :
      Refuses request (.user guard now time reply drawn) refusal

/-- Every way that a gate can judge a request. -/
inductive Judges (gate : Gate) (request : Request) : Judged → Prop where
  | admits {credential} (accepts : gate.Accepts request credential) :
      Judges gate request ⟨.admitted credential, [.ofOutcome gate.channel none]⟩
  | refuses {refusal} (refuses : gate.Refuses request refusal) :
      Judges gate request ⟨.refused refusal, [.ofOutcome gate.channel (some refusal)]⟩
  | halts (unlasting : ¬ gate.Lasting) : Judges gate request ⟨.halted, []⟩

variable {gate : Gate} {request : Request} {credential other : Credential} {refusal : Refusal}

theorem Accepts.judge (accepts : gate.Accepts request credential) :
    gate.judge request = ⟨.admitted credential, [.ofOutcome gate.channel none]⟩ := by
  cases accepts with
  | webhook named verified =>
      simp only [Gate.judge, Webhook.Validator.guardNamed, named, verified]
      rfl
  | service carried verified =>
      simp only [Gate.judge, Service.Guard.judge, Service.Guard.authenticate, carried, verified]
      rfl
  | user carried verified =>
      simp only [Gate.judge, User.Guard.judge, User.Guard.authenticate, carried, verified]
      rfl

theorem Refuses.judge (refuses : gate.Refuses request refusal) :
    gate.judge request = ⟨.refused refusal, [.ofOutcome gate.channel (some refusal)]⟩ := by
  cases refuses with
  | unnamed named =>
      simp only [Gate.judge, Webhook.Validator.guardNamed, named]
      rfl
  | webhook named verified =>
      simp only [Gate.judge, Webhook.Validator.guardNamed, named, verified]
      rfl
  | tokenless carried =>
      simp only [Gate.judge, Service.Guard.judge, Service.Guard.authenticate, carried]
      rfl
  | service carried verified =>
      simp only [Gate.judge, Service.Guard.judge, Service.Guard.authenticate, carried, verified]
      rfl
  | bearerless carried =>
      simp only [Gate.judge, User.Guard.judge, User.Guard.authenticate, carried]
      rfl
  | user carried verified =>
      simp only [Gate.judge, User.Guard.judge, User.Guard.authenticate, carried, verified]
      rfl

theorem Judges.of_accepts (accepts : gate.Accepts request credential) :
    gate.Judges request (gate.judge request) :=
  accepts.judge ▸ .admits accepts

theorem Judges.of_refuses (refuses : gate.Refuses request refusal) :
    gate.Judges request (gate.judge request) :=
  refuses.judge ▸ .refuses refuses

/-- What a gate makes of a request is what its verification comes to. -/
theorem judges (gate : Gate) (request : Request) : gate.Judges request (gate.judge request) := by
  cases gate with
  | webhook validator naming asked stored =>
      cases named : naming.secretName request with
      | error refusal => exact .of_refuses (.unnamed named)
      | ok name =>
          cases verified : (validator.verify asked stored name request).outcome with
          | ok delivery => exact .of_accepts (.webhook named verified)
          | error failure =>
              cases failure with
              | refused refusal => exact .of_refuses (.webhook named verified)
              | overflow =>
                  simp only [judge, Webhook.Validator.guardNamed, named, verified]
                  refine .halts ?_
                  rintro ⟨lifetime, lasts⟩
                  rw [Webhook.Validator.verify_overflow verified] at lasts
                  cases lasts
  | service guard now time reply =>
      cases carried : Service.token? request.headers with
      | none => exact .of_refuses (.tokenless carried)
      | some found =>
          cases verified : (Service.verify guard.settings guard.keys now time reply found.1
            found.2).outcome with
          | ok caller => exact .of_accepts (.service carried verified)
          | error refusal => exact .of_refuses (.service carried verified)
  | user guard now time reply drawn =>
      cases carried : Bearer.token? request.headers with
      | none => exact .of_refuses (.bearerless carried)
      | some token =>
          cases verified : (guard.verify now time reply drawn token).outcome with
          | ok identity => exact .of_accepts (.user carried verified)
          | error refusal => exact .of_refuses (.user carried verified)

theorem accepts_iff :
    gate.Accepts request credential ↔ (gate.judge request).ruling = .admitted credential := by
  refine ⟨fun accepts => by rw [accepts.judge], ?_⟩
  intro admitted
  have judged := gate.judges request
  generalize gate.judge request = outcome at judged admitted
  cases judged with
  | admits accepts =>
      cases admitted
      exact accepts
  | refuses _ => cases admitted
  | halts _ => cases admitted

theorem refuses_iff :
    gate.Refuses request refusal ↔ (gate.judge request).ruling = .refused refusal := by
  refine ⟨fun refuses => by rw [refuses.judge], ?_⟩
  intro refused
  have judged := gate.judges request
  generalize gate.judge request = outcome at judged refused
  cases judged with
  | admits _ => cases refused
  | refuses refuses =>
      cases refused
      exact refuses
  | halts _ => cases refused

end Gate
end Admission
