import Admission.Refusal
import Admission.Time.Instant

/-!
# Decisions

Each guard records one decision for each request it sees. The record keeps
decisions in order; everything counted or exported is a function of it.
-/

namespace Admission

/-- The ways to be admitted. -/
inductive Channel where
  | webhook
  | service
  | user
  /-- Any other way, by its label. -/
  | other (label : String)
deriving DecidableEq, Repr

namespace Channel

/-- The label of a channel in records. -/
def label : Channel → String
  | .webhook => "hmac"
  | .service => "oidc"
  | .user => "firebase"
  | .other label => label

/-- The channel of a label. -/
def ofLabel (label : String) : Channel :=
  ((([.webhook, .service, .user] : List Channel)).find? fun channel => channel.label == label).getD
    (.other label)

end Channel

/-- One recorded decision. -/
structure Decision where
  channel : Channel
  success : Bool
  reason : String
  elapsed : Duration
deriving DecidableEq, Repr

namespace Decision

/-- The reason recorded for an admitted request. -/
def okReason : String := "ok"

/-- The decision on a request that was admitted or refused. -/
def ofOutcome (channel : Channel) (refused : Option Refusal) : Decision :=
  match refused with
  | none => ⟨channel, true, okReason, ⟨0⟩⟩
  | some refusal => ⟨channel, false, refusal.code, ⟨0⟩⟩

/-- The decision on a request with an outcome. -/
def judged {Admitted : Type} (channel : Channel) (outcome : Except Refusal Admitted) : Decision :=
  match outcome with
  | .ok _ => ofOutcome channel none
  | .error refusal => ofOutcome channel (some refusal)

/-- How many decisions of a channel have a reason. -/
def count (record : List Decision) (channel : Channel) (reason : String) : Nat :=
  (record.filter fun decision => decision.channel = channel ∧ decision.reason = reason).length

/-- The pairs of channel and reason that occur, each once, with their counts. -/
def counts (record : List Decision) : List (Channel × String × Nat) :=
  let pairs := (record.map fun decision => (decision.channel, decision.reason)).eraseDups
  pairs.map fun pair => (pair.1, pair.2, count record pair.1 pair.2)

end Decision
end Admission
