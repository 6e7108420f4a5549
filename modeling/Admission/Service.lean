import Admission.Bearer
import Admission.Decision
import Admission.Http.Request
import Admission.KeySet.Cache
import Admission.Token.Claims

/-!
# Service callers

A service is admitted by a signed token. The key is looked up by the header of
the token; issuer, audience and subject are compared once the signature and the
time of expiry are right.
-/

namespace Admission.Service

/-- What is expected of service tokens. -/
structure Settings where
  audience : String
  /-- The accepted issuers; every issuer is accepted when there are none. -/
  allowedIssuers : List String
  leeway : Duration
deriving DecidableEq, Repr

/-- The leeway when none is chosen. -/
def defaultLeeway : Duration := .seconds 60

/-- Where a token was found. -/
inductive TokenSource where
  | authorization
  /-- The assertion that a proxy in front adds. -/
  | assertion
deriving DecidableEq, Repr

/-- The label of a source. -/
def TokenSource.label : TokenSource → String
  | .authorization => "Authorization"
  | .assertion => "IapAssertion"

/-- The header field of the assertion. -/
def assertionHeader : String := "x-goog-iap-jwt-assertion"

/-- The text of an assertion field, when there is one. -/
def assertion? (headers : List Header) : Option String :=
  match Header.required headers assertionHeader with
  | .present text => some text
  | _ => none

/-- The token of a request: a bearer token before an assertion. -/
def token? (headers : List Header) : Option (String × TokenSource) :=
  match Bearer.token? headers with
  | some token => some (token, .authorization)
  | none => (assertion? headers).map fun token => (token, .assertion)

/-- An admitted service. -/
structure Caller where
  subject : String
  email : Option String
  issuer : String
  /-- The expected audience, which the token confirmed. -/
  audience : String
  claims : Token.Claims
  header : Token.Header
  token : String
  source : TokenSource
deriving Repr

/-- How a caller appears in messages: without claims and token. -/
def Caller.shown (caller : Caller) : String :=
  "ServiceIdentity \x7b subject: " ++ Text.quoted caller.subject ++
    ", email: " ++ Text.quotedOption caller.email ++
    ", issuer: " ++ Text.quoted caller.issuer ++
    ", audience: " ++ Text.quoted caller.audience ++
    ", source: " ++ caller.source.label ++ ", .. \x7d"

/-- Whether an audience claim names the expected audience: as its text, or as
one of its items. -/
def audienceMatches (claim : Option Json) (expected : String) : Bool :=
  match claim with
  | some (.text value) => value == expected
  | some (.array items) => items.any fun item => item.text? == some expected
  | _ => false

/-- The caller that verified claims describe. -/
def callerOf (settings : Settings) (header : Token.Header) (claims : Token.Claims)
    (token : String) (source : TokenSource) : Except Refusal Caller := do
  let issuer := (Token.Claims.text? claims "iss").getD ""
  if !settings.allowedIssuers.isEmpty ∧ !settings.allowedIssuers.contains issuer then
    .error .issuerMismatch
  if !audienceMatches (Json.lookup? claims "aud") settings.audience then
    .error .audienceMismatch
  match Token.Claims.text? claims "sub" with
  | none => .error .tokenInvalid
  | some subject =>
      if subject.isEmpty then .error .tokenInvalid
      else
        return {
          subject := subject
          email := Token.Claims.text? claims "email"
          issuer := issuer
          audience := settings.audience
          claims := claims
          header := header
          token := token
          source := source }

/-- The refusal that a missing key calls for. -/
def refusalOfKey (fault : KeyFault) : Refusal :=
  if fault.isFetch then .keysUnavailable else .tokenInvalid

/-- The refusal that a token fault calls for. -/
def refusalOfToken : TokenFault → Refusal
  | .expired => .tokenExpired
  | _ => .tokenInvalid

/-- The outcome of verification and the key cache after it. -/
structure Verdict where
  outcome : Except Refusal Caller
  keys : KeyCache

/-- Verify a token. The key cache keeps the clock `now`; expiry is judged at the
time `time` in seconds. -/
def verify (settings : Settings) (keys : KeyCache) (now : Instant) (time : Nat) (reply : Reply)
    (token : String) (source : TokenSource) : Verdict :=
  match Token.Header.ofToken token with
  | .error _ => ⟨.error .tokenInvalid, keys⟩
  | .ok header =>
      if header.algorithm ≠ "RS256" then ⟨.error .tokenInvalid, keys⟩
      else
        let lookup := keys.keyForHeader now header.algorithm header.keyId reply
        match lookup.result with
        | .error fault => ⟨.error (refusalOfKey fault), lookup.cache⟩
        | .ok key =>
            match Token.verify ⟨settings.leeway, none, none⟩ time key token with
            | .error fault => ⟨.error (refusalOfToken fault), lookup.cache⟩
            | .ok claims => ⟨callerOf settings header claims token source, lookup.cache⟩

/-- The state of a guard. -/
structure Guard where
  settings : Settings
  keys : KeyCache

/-- The outcome of a guard with the one decision that is recorded. -/
structure Judgement where
  outcome : Except Refusal Caller
  guard : Guard
  decisions : List Decision

/-- The outcome for one request, before it is recorded. -/
def Guard.authenticate (guard : Guard) (now : Instant) (time : Nat) (reply : Reply)
    (request : Request) : Verdict :=
  match token? request.headers with
  | none => ⟨.error .tokenMissing, guard.keys⟩
  | some (token, source) => verify guard.settings guard.keys now time reply token source

/-- Guard one request. -/
def Guard.judge (guard : Guard) (now : Instant) (time : Nat) (reply : Reply)
    (request : Request) : Judgement :=
  let verdict := guard.authenticate now time reply request
  ⟨verdict.outcome, { guard with keys := verdict.keys },
    [Decision.judged .service verdict.outcome]⟩

end Admission.Service
