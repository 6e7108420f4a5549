import Admission.Bearer
import Admission.Decision
import Admission.Http.Request
import Admission.Identity
import Admission.KeySet.Cache

/-!
# Users

A user is admitted by a token that a verifier accepts and that grants a role. A
verifier either looks tokens up or checks their signature and claims against the
published keys of a project.
-/

namespace Admission.User

/-- How users are admitted. -/
structure Settings where
  /-- The claim that grants roles. -/
  roleClaim : String
  localeClaim : String
  emailClaim : String
  /-- The role of a token that grants none. -/
  defaultRole : Option String
  verifyTimeout : Duration
  /-- The time allowed for loading a profile. -/
  userTimeout : Duration
deriving DecidableEq, Repr

/-- The settings when none are chosen. -/
def Settings.standard : Settings where
  roleClaim := "roles"
  localeClaim := "locale"
  emailClaim := "email"
  defaultRole := none
  verifyTimeout := .milliseconds 3000
  userTimeout := .milliseconds 3000

/-- A token that was accepted. -/
structure Verified where
  uid : String
  claims : Token.Claims
deriving Repr

/-- Why a token is not accepted. -/
inductive VerifyFault where
  | expired
  | invalid (reason : String)
  /-- The keys or the answer could not be had. -/
  | unavailable (reason : String)
deriving DecidableEq, Repr

namespace VerifyFault

/-- The wording of a fault. -/
def message : VerifyFault → String
  | .expired => "token expired"
  | .invalid reason => "invalid token: " ++ reason
  | .unavailable reason => "verifier unavailable: " ++ reason

/-- The refusal that a fault calls for. -/
def refusal : VerifyFault → Refusal
  | .expired => .tokenExpired
  | .invalid _ => .tokenInvalid
  | .unavailable _ => .verifierUnavailable

end VerifyFault

/-- A project whose users sign in, with its published keys. -/
structure Project where
  id : String
  keys : KeyCache

namespace Project

/-- Where the keys of all projects are published. -/
def keyAddress : String :=
  "https://www.googleapis.com/service_accounts/v1/jwk/securetoken@system.gserviceaccount.com"

/-- The issuer of the tokens of a project. -/
def issuer (id : String) : String := "https://securetoken.google.com/" ++ id

/-- The leeway for expiry. -/
def leeway : Duration := .seconds 60

/-- What is expected of the tokens of a project. -/
def expectation (id : String) : Token.Expectation := ⟨leeway, some (issuer id), some id⟩

/-- The fault that a missing key amounts to. -/
def faultOfKey (fault : KeyFault) : VerifyFault :=
  if fault.isFetch then .unavailable fault.message else .invalid fault.message

/-- The fault that a token fault amounts to. -/
def faultOfToken : TokenFault → VerifyFault
  | .expired => .expired
  | fault => .invalid fault.message

/-- The user that verified claims describe. -/
def verifiedOf (claims : Token.Claims) : Except VerifyFault Verified :=
  match Token.Claims.text? claims "sub" with
  | none => .error (.invalid "missing sub")
  | some subject =>
      if subject.isEmpty then .error (.invalid "missing sub") else .ok ⟨subject, claims⟩

/-- The outcome of verification. -/
structure Verdict where
  outcome : Except VerifyFault Verified
  project : Project
  /-- Whether the caller waits for keys. -/
  waits : Bool
  /-- The project when the caller gives up waiting. -/
  abandoned : Project

/-- Verify a token of a project. -/
def verify (project : Project) (now : Instant) (time : Nat) (reply : Reply) (token : String) :
    Verdict :=
  match Token.Header.ofToken token with
  | .error fault => ⟨.error (.invalid fault.message), project, false, project⟩
  | .ok header =>
      let lookup := project.keys.keyForHeader now header.algorithm header.keyId reply
      let outcome :=
        match lookup.result with
        | .error fault => .error (faultOfKey fault)
        | .ok key =>
            match Token.verify (expectation project.id) time key token with
            | .error fault => .error (faultOfToken fault)
            | .ok claims => verifiedOf claims
      ⟨outcome, { project with keys := lookup.cache }, lookup.waits,
        { project with keys := lookup.abandoned }⟩

end Project

/-- How tokens are verified. -/
inductive Verifier where
  /-- By a table of tokens, each answer given after a delay. -/
  | table (answers : List (String × Except VerifyFault Verified)) (delay : Duration)
  /-- By signature and claims. -/
  | signed (project : Project)

namespace Verifier

/-- The answer of a verifier to a token. -/
structure Answer where
  outcome : Except VerifyFault Verified
  delay : Duration
  verifier : Verifier
  /-- The verifier when the caller gives up waiting. -/
  abandoned : Verifier

/-- Ask for a token to be verified. Where keys have to be fetched for it, their endpoint
draws its reply out. -/
def verify (verifier : Verifier) (now : Instant) (time : Nat) (reply : Reply) (drawn : Duration)
    (token : String) : Answer :=
  match verifier with
  | .table answers delay =>
      let outcome :=
        match answers.find? fun entry => entry.1 == token with
        | some entry => entry.2
        | none => .error (.invalid "unknown token")
      ⟨outcome, delay, verifier, verifier⟩
  | .signed project =>
      let verdict := project.verify now time reply token
      let delay :=
        if verdict.waits then KeyCache.waiting project.keys.settings drawn reply else ⟨0⟩
      ⟨verdict.outcome, delay, .signed verdict.project, .signed verdict.abandoned⟩

/-- The key cache of a verifier that has one. -/
def keys? : Verifier → Option KeyCache
  | .table _ _ => none
  | .signed project => some project.keys

end Verifier

/-- The roles of verified claims, or else the role given by default. -/
def rolesOf (settings : Settings) (claims : Token.Claims) : List String :=
  let granted := ((Json.lookup? claims settings.roleClaim).map Role.ofClaim).getD []
  if granted.isEmpty then (settings.defaultRole.bind Role.normalize?).toList else granted

/-- The identity of a verified token, when its roles admit it. No allowed role
at all admits every role. -/
def identityOf (settings : Settings) (allowed : List String) (token : String)
    (verified : Verified) : Except Refusal Identity := do
  if verified.uid.isEmpty then .error .tokenInvalid
  let roles := rolesOf settings verified.claims
  if roles.isEmpty then .error .missingRole
  if !allowed.isEmpty ∧ !roles.any allowed.contains then .error .insufficientRole
  return {
    uid := verified.uid
    email := Token.Claims.text? verified.claims settings.emailClaim
    roles := roles
    locale := Token.Claims.text? verified.claims settings.localeClaim
    claims := verified.claims
    token := token
    loader := none }

/-- The state of a guard. -/
structure Guard where
  settings : Settings
  verifier : Verifier
  directory : Option Directory
  /-- The allowed roles, normalised. -/
  allowed : List String
  cells : ProfileCells

/-- A guard that admits some roles. -/
def Guard.start (settings : Settings) (verifier : Verifier) (directory : Option Directory)
    (allowed : List String) : Guard :=
  ⟨settings, verifier, directory, Role.ofTexts allowed, .none⟩

/-- The outcome of verification and the guard after it. -/
structure Verdict where
  outcome : Except Refusal Identity
  guard : Guard

/-- Verify a token and build the identity. A verifier that is late is given up. -/
def Guard.verify (guard : Guard) (now : Instant) (time : Nat) (reply : Reply) (drawn : Duration)
    (token : String) : Verdict :=
  let answer := guard.verifier.verify now time reply drawn token
  if guard.settings.verifyTimeout.nanoseconds < answer.delay.nanoseconds then
    ⟨.error .verifierUnavailable, { guard with verifier := answer.abandoned }⟩
  else
    let guard := { guard with verifier := answer.verifier }
    match answer.outcome with
    | .error fault => ⟨.error fault.refusal, guard⟩
    | .ok verified =>
        match identityOf guard.settings guard.allowed token verified with
        | .error refusal => ⟨.error refusal, guard⟩
        | .ok identity =>
            let (identity, cells) :=
              identity.bindDirectory guard.cells guard.directory guard.settings.userTimeout
            ⟨.ok identity, { guard with cells := cells }⟩

/-- The outcome for one request, before it is recorded. -/
def Guard.authenticate (guard : Guard) (now : Instant) (time : Nat) (reply : Reply)
    (drawn : Duration) (request : Request) : Verdict :=
  match Bearer.token? request.headers with
  | none => ⟨.error .tokenMissing, guard⟩
  | some token => guard.verify now time reply drawn token

/-- The outcome of a guard with the one decision that is recorded. -/
structure Judgement where
  outcome : Except Refusal Identity
  guard : Guard
  decisions : List Decision

/-- Guard one request. -/
def Guard.judge (guard : Guard) (now : Instant) (time : Nat) (reply : Reply) (drawn : Duration)
    (request : Request) : Judgement :=
  let verdict := guard.authenticate now time reply drawn request
  ⟨verdict.outcome, verdict.guard, [Decision.judged .user verdict.outcome]⟩

end Admission.User
