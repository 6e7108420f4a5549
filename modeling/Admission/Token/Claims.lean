import Admission.Time.Instant
import Admission.Token.Compact
import Admission.Token.Rsa

/-!
# Claims

The claims of a token count once its signature is right. Five of them are
registered: each may occur once, the subject must not be a container, and the
two times must not be filled containers. The time of expiry must be there and
must not have passed by more than the leeway. Issuer and audience are compared
with the expected ones only where they are texts or lists of texts.
-/

namespace Admission.Token

/-- The claims of a token, as written. -/
abbrev Claims := List (String × Json)

namespace Claims

/-- The registered claims. -/
def registeredNames : List String := ["exp", "nbf", "sub", "iss", "aud"]

/-- Whether a value contains other values. -/
def isContainer : Json → Bool
  | .array _ => true
  | .object _ => true
  | _ => false

/-- Whether a value contains at least one other value. -/
def isFilledContainer : Json → Bool
  | .array items => !items.isEmpty
  | .object members => !members.isEmpty
  | _ => false

/-- Whether the registered claims can be read. -/
def readable (claims : Claims) : Bool :=
  Json.once claims registeredNames &&
    !((Json.lookup? claims "sub").any isContainer) &&
    !((Json.lookup? claims "exp").any isFilledContainer) &&
    !((Json.lookup? claims "nbf").any isFilledContainer)

/-- A time in whole seconds: a number from zero up to 64 bits, rounded. -/
def seconds? : Json → Option Nat
  | .number (.integer value) => if 0 ≤ value then some value.toNat else none
  | .number (.real value) =>
      if (!value.negative ∨ value.isZero) ∧ value.quotient.1 < Nat.pow 2 64 * value.quotient.2 then
        some (min value.rounded.toNat (Nat.pow 2 64 - 1))
      else none
  | _ => none

/-- The time of expiry. -/
def expiry? (claims : Claims) : Option Nat := do
  let value ← Json.lookup? claims "exp"
  seconds? value

/-- The text of a claim. -/
def text? (claims : Claims) (name : String) : Option String := do
  let value ← Json.lookup? claims name
  value.text?

/-- Whether a claim differs from what is expected of it: a text that is not the
expected one, or a list of texts without it. -/
def contradicts (claim : Option Json) (expected : String) : Bool :=
  match claim with
  | some (.text value) => value != expected
  | some (.array items) =>
      match items.mapM Json.text? with
      | some texts => !texts.contains expected
      | none => false
  | _ => false

end Claims

/-- What is expected of the claims of a token. -/
structure Expectation where
  leeway : Duration
  issuer : Option String
  audience : Option String
deriving DecidableEq, Repr

/-- The earliest time of expiry still accepted, counted in 64 bits. -/
def earliestExpiry (time : Nat) (leeway : Duration) : Nat :=
  if leeway.wholeSeconds ≤ time then time - leeway.wholeSeconds
  else time + Nat.pow 2 64 - leeway.wholeSeconds

/-- The fault of claims at a time, if any. -/
def claimFault? (expectation : Expectation) (time : Nat) (claims : Claims) : Option TokenFault :=
  if !Claims.readable claims then some .json
  else
    match Claims.expiry? claims with
    | none => some (.missingClaim "exp")
    | some expiry =>
        if expiry < earliestExpiry time expectation.leeway then some .expired
        else if expectation.issuer.any (Claims.contradicts (Json.lookup? claims "iss")) then
          some .issuer
        else if expectation.audience.any (Claims.contradicts (Json.lookup? claims "aud")) then
          some .audience
        else none

/-- The claims of a token whose RS256 signature is right under a key and which
meets the expectation at a time. -/
def verify (expectation : Expectation) (time : Nat) (key : RsaKey) (token : String) :
    Except TokenFault Claims := do
  let parts ← Compact.ofToken token
  let header ← Header.ofToken token
  if header.algorithm ≠ "RS256" then .error .algorithm
  let signature ← partBytes parts.signature
  if !key.verifies parts.signed signature then .error .signature
  let claims ← partMembers parts.payload
  match claimFault? expectation time claims with
  | some fault => .error fault
  | none => .ok claims

end Admission.Token
