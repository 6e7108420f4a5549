import Admission.Http.Request
import Admission.Nonce
import Admission.Refusal
import Admission.Secret
import Admission.Webhook.Signature
import Admission.Webhook.Timestamp

/-!
# Verifying signed requests

A request is admitted when its secret is known, its three header fields are
there, its timestamp lies near the clock, its body can be read, its signature
is right, and its nonce is unused. The nonce is used last, so that a request
without a right signature never uses one.

The clock is read twice: when the timestamp is checked, and again when the nonce
is used. In between the body arrives, at the pace of its sender.
-/

namespace Admission.Webhook

/-- The settings of verification. -/
structure Settings where
  signatureHeader : String
  timestampHeader : String
  nonceHeader : String
  /-- The greatest distance of a timestamp from the clock. -/
  clockSkew : Duration
  /-- How long a used nonce is remembered. -/
  nonceLifetime : Duration
  maxBodyBytes : Nat
  nonceTimeout : Duration
deriving DecidableEq, Repr

namespace Settings

/-- The settings when none are chosen. -/
def standard : Settings where
  signatureHeader := "x-signature"
  timestampHeader := "x-signature-timestamp"
  nonceHeader := "x-signature-nonce"
  clockSkew := .seconds 300
  nonceLifetime := .seconds 600
  maxBodyBytes := 1048576
  nonceTimeout := .milliseconds 2000

/-- How long a nonce is remembered in effect: at least a second longer than the
skew, which is meant to keep accepted timestamps from leading to an expiry that
has passed.
There is none when skew and second do not add up to a duration. -/
def effectiveLifetime? (settings : Settings) : Option Span :=
  (settings.clockSkew.add? (.seconds 1)).map fun least =>
    (settings.nonceLifetime.longer least).span

end Settings

/-- What is known of an admitted request. -/
structure Metadata where
  secretName : String
  timestamp : Instant
  nonce : String
  signature : Bytes
  /-- The signature as it was written. -/
  rawSignature : String
deriving DecidableEq, Repr

/-- An admitted request. -/
structure Delivery where
  metadata : Metadata
  body : Bytes
deriving DecidableEq, Repr

/-- Why verification yields no delivery. -/
inductive Failure where
  /-- The request is refused. -/
  | refused (refusal : Refusal)
  /-- The settings leave no lifetime for the nonce; verification cannot go on. -/
  | overflow
deriving DecidableEq, Repr

/-- The state of verification. -/
structure Validator where
  settings : Settings
  secretTimeout : Duration
  source : SecretSource
  cache : SecretCache
  nonces : NonceStore

/-- The time allowed for a secret lookup when none is chosen. -/
def defaultSecretTimeout : Duration := .milliseconds 2000

/-- The text of a required header field, or the refusal it calls for. -/
def requiredText (headers : List Header) (name : String) (missing unreadable : Refusal) :
    Except Refusal String :=
  match Header.required headers name with
  | .missing => .error missing
  | .unreadable => .error unreadable
  | .present text => .ok text

/-- A request whose signature is right, before its nonce is used. -/
structure Signed where
  metadata : Metadata
  body : Bytes
  expiry : Option Instant
deriving DecidableEq, Repr

/-- A value that verification cannot go on without. -/
def require {Value : Type} (failure : Failure) : Option Value → Except Failure Value
  | some value => .ok value
  | none => .error failure

/-- Refuse a request on some ground, or go on. -/
def refuseWhen (ground : Prop) [Decidable ground] (refusal : Refusal) : Except Failure Unit :=
  if ground then .error (.refused refusal) else .ok ()

/-- Check all of a request but its nonce, with the clock as it stands before the
body has arrived. The expiry counts from the earlier of timestamp and clock; it is
absent when no instant denotes it. -/
def checkSigned (settings : Settings) (secret : Secret) (secretName : String) (asked : Instant)
    (request : Request) : Except Failure Signed := do
  let required (name : String) (missing unreadable : Refusal) : Except Failure String :=
    (requiredText request.headers name missing unreadable).mapError .refused
  let rawSignature ← required settings.signatureHeader .signatureMissing .signatureInvalid
  let rawTimestamp ← required settings.timestampHeader .timestampMissing .timestampInvalid
  let nonce ← required settings.nonceHeader .nonceMissing .nonceInvalid
  let timestamp ← require (.refused .timestampInvalid) (timestamp? rawTimestamp)
  refuseWhen (settings.clockSkew.span < (asked.since timestamp).magnitude) .timestampSkew
  let body ← require (.refused .bodyUnreadable) (request.body.gather? settings.maxBodyBytes)
  let signature ← require (.refused .signatureInvalid) (decodeSignature? rawSignature)
  let parts : SignedParts := ⟨request.method, request.path, rawTimestamp, nonce, body⟩
  refuseWhen (parts.tag secret.bytes ≠ signature) .signatureMismatch
  let lifetime ← require .overflow settings.effectiveLifetime?
  return {
    metadata := ⟨secretName, timestamp, nonce, signature, rawSignature⟩
    body := body
    expiry := (timestamp.earlier asked).add? lifetime }

/-- The refusal that a store's answer to the use of a nonce calls for. -/
def nonceRefusal? (timeout : Duration) (delay : Duration) (answer : Except NonceFault Bool) :
    Option Refusal :=
  if timeout.nanoseconds < delay.nanoseconds then some .nonceStoreUnavailable
  else
    match answer with
    | .ok true => none
    | .ok false => some .nonceReplay
    | .error (.unavailable _) => some .nonceStoreUnavailable
    | .error _ => some .nonceStoreError

namespace Validator

/-- Use the nonce of a signed request, with the clock as it stands then. A store
that is late has not used it. -/
def commit (validator : Validator) (stored : Instant) (signed : Signed) :
    Except Failure Delivery × Validator :=
  match signed.expiry with
  | none => (.error (.refused .nonceStoreError), validator)
  | some expiry =>
      let timeout := validator.settings.nonceTimeout
      let delay := validator.nonces.delay
      let (answer, nonces) :=
        validator.nonces.use stored signed.metadata.secretName signed.metadata.nonce expiry
      let validator :=
        if timeout.nanoseconds < delay.nanoseconds then validator
        else { validator with nonces := nonces }
      match nonceRefusal? timeout delay answer with
      | none => (.ok ⟨signed.metadata, signed.body⟩, validator)
      | some refusal => (.error (.refused refusal), validator)

/-- The outcome of verification: the delivery, the state after it, and whether
the source of secrets was asked. -/
structure Verdict where
  outcome : Except Failure Delivery
  validator : Validator
  asked : Bool

/-- Verify a request against a named secret. Its timestamp is checked at the first
instant, its nonce is used at the second. -/
def verify (validator : Validator) (asked stored : Instant) (secretName : String)
    (request : Request) : Verdict :=
  let lookup := validator.cache.get validator.secretTimeout validator.source secretName
  let validator := { validator with cache := lookup.cache }
  match lookup.result with
  | .error _ => ⟨.error (.refused .secretUnavailable), validator, lookup.asked⟩
  | .ok secret =>
      match checkSigned validator.settings secret secretName asked request with
      | .error failure => ⟨.error failure, validator, lookup.asked⟩
      | .ok signed =>
          let (outcome, validator) := validator.commit stored signed
          ⟨outcome, validator, lookup.asked⟩

end Validator
end Admission.Webhook
