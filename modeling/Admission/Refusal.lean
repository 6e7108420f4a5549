import Admission.Http.Response

/-!
# Refusals

Why a request is not admitted. Every refusal has a code, a wording and a status,
and is answered by them. Refusals that tell of a fault on the own side count as
infrastructure faults.
-/

namespace Admission

/-- The causes for which a request is not admitted. -/
inductive Refusal where
  /-- The guard names no secret. -/
  | secretNotConfigured
  /-- No known provider belongs to the path. -/
  | unknownProvider
  /-- The secret could not be obtained. -/
  | secretUnavailable
  | signatureMissing
  | timestampMissing
  | nonceMissing
  /-- The nonce is not readable text. -/
  | nonceInvalid
  /-- The timestamp is neither a date and time nor a count of seconds. -/
  | timestampInvalid
  /-- The timestamp lies too far from the clock. -/
  | timestampSkew
  /-- The body broke off or is too long. -/
  | bodyUnreadable
  /-- The signature is written in neither accepted form. -/
  | signatureInvalid
  | signatureMismatch
  /-- The nonce has been used within its lifetime. -/
  | nonceReplay
  | nonceStoreUnavailable
  | nonceStoreError
  /-- No accepted header carries a token. -/
  | tokenMissing
  /-- The token has a faulty signature, algorithm or claim. -/
  | tokenInvalid
  | tokenExpired
  /-- The signing keys could not be fetched. -/
  | keysUnavailable
  | issuerMismatch
  | audienceMismatch
  | verifierUnavailable
  /-- The token grants no role and no role is granted by default. -/
  | missingRole
  /-- No granted role is an allowed one. -/
  | insufficientRole
  /-- A handler asked for an identity that no guard attached. -/
  | unauthenticated
deriving DecidableEq, Repr

namespace Refusal

/-- All refusals. -/
def all : List Refusal :=
  [.secretNotConfigured, .unknownProvider, .secretUnavailable, .signatureMissing,
    .timestampMissing, .nonceMissing, .nonceInvalid, .timestampInvalid, .timestampSkew,
    .bodyUnreadable, .signatureInvalid, .signatureMismatch, .nonceReplay, .nonceStoreUnavailable,
    .nonceStoreError, .tokenMissing, .tokenInvalid, .tokenExpired, .keysUnavailable,
    .issuerMismatch, .audienceMismatch, .verifierUnavailable, .missingRole, .insufficientRole,
    .unauthenticated]

/-- The code by which callers tell refusals apart. -/
def code : Refusal → String
  | .secretNotConfigured => "secret_not_configured"
  | .unknownProvider => "unknown_provider"
  | .secretUnavailable => "secret_unavailable"
  | .signatureMissing => "signature_missing"
  | .timestampMissing => "timestamp_missing"
  | .nonceMissing => "nonce_missing"
  | .nonceInvalid => "nonce_invalid"
  | .timestampInvalid => "timestamp_invalid"
  | .timestampSkew => "timestamp_skew"
  | .bodyUnreadable => "body_unreadable"
  | .signatureInvalid => "signature_invalid"
  | .signatureMismatch => "signature_mismatch"
  | .nonceReplay => "nonce_replay"
  | .nonceStoreUnavailable => "nonce_store_unavailable"
  | .nonceStoreError => "nonce_store_error"
  | .tokenMissing => "token_missing"
  | .tokenInvalid => "token_invalid"
  | .tokenExpired => "token_expired"
  | .keysUnavailable => "jwks_unavailable"
  | .issuerMismatch => "issuer_mismatch"
  | .audienceMismatch => "audience_mismatch"
  | .verifierUnavailable => "verifier_unavailable"
  | .missingRole => "missing_role"
  | .insufficientRole => "insufficient_role"
  | .unauthenticated => "unauthenticated"

/-- The wording shown to callers. -/
def message : Refusal → String
  | .secretNotConfigured => "Signing secret is not configured"
  | .unknownProvider => "Unknown webhook provider"
  | .secretUnavailable => "Signing secret is temporarily unavailable"
  | .signatureMissing => "Signature header is required"
  | .timestampMissing => "Signature timestamp header is required"
  | .nonceMissing => "Signature nonce header is required"
  | .nonceInvalid => "Signature nonce is malformed"
  | .timestampInvalid => "Signature timestamp is malformed"
  | .timestampSkew => "Signature timestamp is outside the allowed window"
  | .bodyUnreadable => "Request body could not be read"
  | .signatureInvalid => "Signature is not valid base64 or hex"
  | .signatureMismatch => "Signature does not match"
  | .nonceReplay => "Nonce has already been used"
  | .nonceStoreUnavailable => "Replay protection is temporarily unavailable"
  | .nonceStoreError => "Replay protection failed"
  | .tokenMissing => "Bearer token is required (expected 'Bearer <token>')"
  | .tokenInvalid => "Token is invalid"
  | .tokenExpired => "Token has expired"
  | .keysUnavailable => "Token signing keys are unavailable"
  | .issuerMismatch => "Token issuer is not allowed"
  | .audienceMismatch => "Token audience is invalid"
  | .verifierUnavailable => "Token verification is temporarily unavailable"
  | .missingRole => "Token carries no role"
  | .insufficientRole => "Insufficient role for this operation"
  | .unauthenticated => "Request is not authenticated"

/-- The status of the answer. Keys that cannot be fetched leave the caller
unauthenticated and are no reason for a service fault. -/
def status : Refusal → Nat
  | .secretNotConfigured | .secretUnavailable | .nonceStoreUnavailable | .nonceStoreError
  | .verifierUnavailable => 503
  | .bodyUnreadable => 400
  | _ => 401

/-- Whether the fault lies on the own side. -/
def isInfrastructure (refusal : Refusal) : Bool :=
  refusal.status = 503 || refusal = .keysUnavailable

/-- The answer to a refused request. -/
def response (refusal : Refusal) : Response :=
  .json refusal.status
    (.object [("error", .text refusal.message), ("error_code", .text refusal.code)])

/-- The refusal of a code. -/
def ofCode? (code : String) : Option Refusal :=
  all.find? fun refusal => refusal.code == code

/-- The code of a refusal leads back to it. -/
theorem ofCode?_code (refusal : Refusal) : ofCode? refusal.code = some refusal := by
  cases refusal <;> rfl

/-- Different refusals have different codes. -/
theorem code_injective {left right : Refusal} (same : left.code = right.code) : left = right :=
  Option.some.inj (by rw [← ofCode?_code left, same, ofCode?_code])

end Refusal
end Admission
