import Mathlib.Logic.Basic
import Admission.Proofs.Token.Draft
import Admission.Service
import Admission.User

/-!
# How both verifiers come to their keys

A header that names RS256 and an identifier asks for a key, any other header for none. What a
verifier makes of the key that is found, or of the fault, comes after that and touches the
cache no more. So service tokens and tokens of a project come to their keys alike, although
the two verifiers check the header differently and word the faults in their own terms. A fetch
takes its time here: a lookup may end later than it began.
-/

namespace Admission

open KeyCache (FetchFails)

variable {keys : KeyCache} {now asked answered : Instant} {time : Nat} {reply : Reply}
  {token keyId : String} {header : Token.Header} {found : Except KeyFault RsaKey}

/-! ## Keys that headers ask for -/

/-- A header asks for a key: it names RS256 and an identifier. -/
def Token.Header.AsksFor (header : Token.Header) (keyId : String) : Prop :=
  header.algorithm = "RS256" ∧ header.keyId = some keyId ∧ keyId ≠ ""

/-- A token asks for a key: its header can be read and asks for it. -/
def Token.Asks (token : String) : Prop :=
  ∃ header keyId, Token.Header.ofToken token = .ok header ∧ header.AsksFor keyId

namespace KeyCache

/-- The key that a token header asks for, looked up by a lookup that may take its time. -/
def lookupForHeader (cache : KeyCache) (asked answered : Instant) (header : Token.Header)
    (reply : Reply) : Except KeyFault RsaKey × KeyCache :=
  if header.algorithm ≠ "RS256" then (.error (.foreignAlgorithm header.algorithm), cache)
  else
    match header.keyId with
    | none => (.error .missingKeyId, cache)
    | some keyId =>
        if keyId.isEmpty then (.error .missingKeyId, cache)
        else cache.lookup asked answered keyId reply

/-- A lookup for a header that takes no time is `keyForHeader`. -/
theorem keyForHeader_eq_lookupForHeader (cache : KeyCache) (now : Instant)
    (header : Token.Header) (reply : Reply) :
    (cache.keyForHeader now header.algorithm header.keyId reply).result =
        (cache.lookupForHeader now now header reply).1 ∧
      (cache.keyForHeader now header.algorithm header.keyId reply).cache =
        (cache.lookupForHeader now now header reply).2 := by
  by_cases algorithm : header.algorithm = "RS256"
  · cases named : header.keyId with
    | none => simp [keyForHeader, lookupForHeader, algorithm, named]
    | some keyId =>
        by_cases empty : keyId = ""
        · simp [keyForHeader, lookupForHeader, algorithm, named, empty]
        · simp [keyForHeader, lookupForHeader, algorithm, named, empty, key_eq_lookup.1,
            key_eq_lookup.2]
  · simp [keyForHeader, lookupForHeader, algorithm]

/-- A header that asks for no key is refused and nothing is looked up; any other is looked up
by its identifier. -/
theorem lookupForHeader_cases (cache : KeyCache) (asked answered : Instant)
    (header : Token.Header) (reply : Reply) :
    ((∀ keyId, ¬ header.AsksFor keyId) ∧ ∃ fault, fault.isFetch = false ∧
        cache.lookupForHeader asked answered header reply = (.error fault, cache)) ∨
      ∃ keyId, header.AsksFor keyId ∧
        cache.lookupForHeader asked answered header reply =
          cache.lookup asked answered keyId reply := by
  unfold lookupForHeader Token.Header.AsksFor
  split
  · rename_i foreign
    exact .inl ⟨fun _ asks => foreign asks.1, _, rfl, rfl⟩
  · rename_i algorithm
    split
    · rename_i unnamed
      refine .inl ⟨fun _ asks => ?_, _, rfl, rfl⟩
      rw [unnamed] at asks
      cases asks.2.1
    · rename_i keyId named
      split
      · rename_i empty
        refine .inl ⟨fun _ asks => ?_, _, rfl, rfl⟩
        rw [named, Option.some.injEq] at asks
        exact asks.2.2 (asks.2.1 ▸ String.isEmpty_iff.mp empty)
      · rename_i nonempty
        exact .inr ⟨keyId, ⟨not_not.mp algorithm, named, by simpa using nonempty⟩, rfl⟩

theorem lookupForHeader_of_asks (cache : KeyCache) (asks : header.AsksFor keyId) :
    cache.lookupForHeader asked answered header reply =
      cache.lookup asked answered keyId reply := by
  obtain ⟨algorithm, named, nonempty⟩ := asks
  simp [lookupForHeader, algorithm, named, nonempty]

end KeyCache

/-! ## Service tokens -/

namespace Service

variable {settings : Settings} {source : TokenSource} {refusal : Refusal}

/-- What becomes of a service token once the lookup of its key is over. -/
def concluded (settings : Settings) (time : Nat) (token : String) (source : TokenSource)
    (header : Token.Header) : Except KeyFault RsaKey → Except Refusal Caller
  | .error fault => .error (refusalOfKey fault)
  | .ok key =>
      match Token.verify ⟨settings.leeway, none, none⟩ time key token with
      | .error fault => .error (refusalOfToken fault)
      | .ok claims => callerOf settings header claims token source

/-- Verify a service token by a lookup that may take its time. -/
def verifyOver (settings : Settings) (keys : KeyCache) (asked answered : Instant) (time : Nat)
    (reply : Reply) (token : String) (source : TokenSource) : Verdict :=
  match Token.Header.ofToken token with
  | .error _ => ⟨.error .tokenInvalid, keys⟩
  | .ok header =>
      if header.algorithm ≠ "RS256" then ⟨.error .tokenInvalid, keys⟩
      else
        let (found, after) := keys.lookupForHeader asked answered header reply
        ⟨concluded settings time token source header found, after⟩

/-- Verification by a lookup that takes no time. -/
theorem verify_eq_verifyOver :
    verify settings keys now time reply token source =
      verifyOver settings keys now now time reply token source := by
  unfold verify verifyOver
  cases Token.Header.ofToken token with
  | error fault => rfl
  | ok header =>
      obtain ⟨result, cache⟩ := keys.keyForHeader_eq_lookupForHeader now header reply
      simp only [result, cache]
      cases (keys.lookupForHeader now now header reply).1 with
      | error fault => rfl
      | ok key =>
          simp only [concluded]
          cases Token.verify ⟨settings.leeway, none, none⟩ time key token <;> rfl

/-- Claims are refused for no fault on the own side. -/
theorem callerOf_error {claims : Token.Claims}
    (refused : callerOf settings header claims token source = .error refusal) :
    refusal.isInfrastructure = false := by
  unfold callerOf at refused
  simp only at refused
  split at refused
  · cases refused
    rfl
  · simp only [bind, Except.bind, pure, Except.pure] at refused
    split at refused
    · cases refused
      rfl
    · split at refused
      · cases refused
        rfl
      · split at refused
        · cases refused
          rfl
        · cases refused

/-- A service token is refused for want of its keys exactly when they could not be fetched, and
for no other fault on the own side. -/
theorem concluded_error :
    (concluded settings time token source header found = .error .keysUnavailable ↔
        ∃ fault, found = .error (.fetchFailed fault)) ∧
      ∀ refusal, concluded settings time token source header found = .error refusal →
        refusal.isInfrastructure = true → refusal = .keysUnavailable := by
  cases found with
  | error fault =>
      cases fault <;>
        simp [concluded, refusalOfKey, KeyFault.isFetch, Refusal.isInfrastructure, Refusal.status]
  | ok key =>
      have caused : ∀ refusal,
          concluded settings time token source header (.ok key) = .error refusal →
            refusal.isInfrastructure = false := by
        intro refusal refused
        simp only [concluded] at refused
        split at refused
        · rename_i fault _
          cases refused
          cases fault <;> rfl
        · exact callerOf_error refused
      constructor
      · simp only [reduceCtorEq, exists_false, iff_false]
        intro refused
        cases caused _ refused
      · intro refusal refused infrastructure
        rw [caused _ refused] at infrastructure
        cases infrastructure

/-- A token that asks for no key is refused, and nothing is looked up. -/
theorem verifyOver_of_unasked (unasked : ¬ Token.Asks token) :
    verifyOver settings keys asked answered time reply token source =
      ⟨.error .tokenInvalid, keys⟩ := by
  unfold verifyOver
  cases read : Token.Header.ofToken token with
  | error fault => rfl
  | ok header =>
      simp only
      split
      · rfl
      · rcases keys.lookupForHeader_cases asked answered header reply with
          ⟨_, fault, own, refused⟩ | ⟨keyId, asks, _⟩
        · simp only [refused, concluded, refusalOfKey, own, Bool.false_eq_true, if_false]
        · exact absurd ⟨header, keyId, read, asks⟩ unasked

/-- A token that asks for a key is judged once the key has been looked up. -/
theorem verifyOver_of_asks (read : Token.Header.ofToken token = .ok header)
    (asks : header.AsksFor keyId) :
    verifyOver settings keys asked answered time reply token source =
      ⟨concluded settings time token source header (keys.lookup asked answered keyId reply).1,
        (keys.lookup asked answered keyId reply).2⟩ := by
  simp only [verifyOver, read, asks.1, ne_eq, not_true_eq_false, if_false,
    keys.lookupForHeader_of_asks asks]

end Service

/-! ## Tokens of a project -/

namespace User.Project

variable {project : Project} {id : String}

/-- What becomes of a token of a project once the lookup of its key is over. -/
def concluded (id : String) (time : Nat) (token : String) :
    Except KeyFault RsaKey → Except VerifyFault Verified
  | .error fault => .error (faultOfKey fault)
  | .ok key =>
      match Token.verify (expectation id) time key token with
      | .error fault => .error (faultOfToken fault)
      | .ok claims => verifiedOf claims

/-- Verify a token of a project by a lookup that may take its time. -/
def verifyOver (project : Project) (asked answered : Instant) (time : Nat) (reply : Reply)
    (token : String) : Except VerifyFault Verified × Project :=
  match Token.Header.ofToken token with
  | .error fault => (.error (.invalid fault.message), project)
  | .ok header =>
      let (found, after) := project.keys.lookupForHeader asked answered header reply
      (concluded project.id time token found, { project with keys := after })

/-- Verification by a lookup that takes no time. -/
theorem verify_eq_verifyOver :
    (project.verify now time reply token).outcome =
        (project.verifyOver now now time reply token).1 ∧
      (project.verify now time reply token).project =
        (project.verifyOver now now time reply token).2 := by
  unfold verify verifyOver
  cases Token.Header.ofToken token with
  | error fault => exact ⟨rfl, rfl⟩
  | ok header =>
      obtain ⟨result, cache⟩ := project.keys.keyForHeader_eq_lookupForHeader now header reply
      simp only [result, cache, and_true]
      cases (project.keys.lookupForHeader now now header reply).1 with
      | error fault => rfl
      | ok key =>
          unfold concluded
          cases Token.verify (expectation project.id) time key token <;> rfl

/-- A token of a project cannot be verified for now exactly when its keys could not be
fetched, and there is no other fault on the own side. -/
theorem concluded_error :
    ((∃ reason, concluded id time token found = .error (.unavailable reason)) ↔
        ∃ fault, found = .error (.fetchFailed fault)) ∧
      ∀ fault, concluded id time token found = .error fault →
        fault.refusal.isInfrastructure = true → ∃ reason, fault = .unavailable reason := by
  refine ⟨?_, fun fault _ infrastructure => ?_⟩
  · cases found with
    | error fault => cases fault <;> simp [concluded, faultOfKey, KeyFault.isFetch]
    | ok key =>
        simp only [concluded, reduceCtorEq, exists_false, iff_false, not_exists]
        intro reason
        split
        · rename_i fault _
          cases fault <;> simp [faultOfToken]
        · unfold verifiedOf
          split
          · simp
          · split <;> simp
  · cases fault with
    | expired => cases infrastructure
    | invalid reason => cases infrastructure
    | unavailable reason => exact ⟨reason, rfl⟩

/-- A token that asks for no key is refused, and nothing is looked up. -/
theorem verifyOver_of_unasked (unasked : ¬ Token.Asks token) :
    ∃ reason, project.verifyOver asked answered time reply token =
      (.error (.invalid reason), project) := by
  unfold verifyOver
  cases read : Token.Header.ofToken token with
  | error fault => exact ⟨fault.message, rfl⟩
  | ok header =>
      rcases project.keys.lookupForHeader_cases asked answered header reply with
        ⟨_, fault, own, refused⟩ | ⟨keyId, asks, _⟩
      · simp only [refused, concluded, faultOfKey, own, Bool.false_eq_true, if_false]
        exact ⟨_, rfl⟩
      · exact absurd ⟨header, keyId, read, asks⟩ unasked

/-- A token that asks for a key is judged once the key has been looked up. -/
theorem verifyOver_of_asks (read : Token.Header.ofToken token = .ok header)
    (asks : header.AsksFor keyId) :
    project.verifyOver asked answered time reply token =
      (concluded project.id time token (project.keys.lookup asked answered keyId reply).1,
        { project with keys := (project.keys.lookup asked answered keyId reply).2 }) := by
  simp only [verifyOver, read, project.keys.lookupForHeader_of_asks asks]

end User.Project

/-! ## Both verifiers -/

/-- The keys that a token asks for could not be had: the fetch of the lookup failed, and the
cache after it does not hold the key. -/
def KeyCache.Wanting (before after : KeyCache) (answered : Instant) (reply : Reply)
    (token : String) : Prop :=
  ∃ header keyId, Token.Header.ofToken token = .ok header ∧ header.AsksFor keyId ∧
    (∃ fault, FetchFails before after answered reply fault) ∧ ∀ key, ¬ after.Holds keyId key

theorem KeyCache.wanting_iff {before after : KeyCache}
    (read : Token.Header.ofToken token = .ok header) (asks : header.AsksFor keyId) :
    before.Wanting after answered reply token ↔
      (∃ fault, FetchFails before after answered reply fault) ∧
        ∀ key, ¬ after.Holds keyId key := by
  constructor
  · rintro ⟨_, _, again, same, wanting⟩
    rw [read] at again
    cases again
    cases asks.2.1.symm.trans same.2.1
    exact wanting
  · exact fun wanting => ⟨header, keyId, read, asks, wanting⟩

/-- What a verification of a service token has in common with one of a token of a project that
ends in `outcome` and leaves the cache `after`, both begun on the cache `before`. -/
structure InStep (before : KeyCache) (answered : Instant) (reply : Reply) (token : String)
    (service : Service.Verdict) (outcome : Except User.VerifyFault User.Verified)
    (after : KeyCache) : Prop where
  /-- Both miss their keys, or neither does. -/
  unavailable_iff :
    service.outcome = .error .keysUnavailable ↔ ∃ reason, outcome = .error (.unavailable reason)
  /-- They miss them when a fetch failed and the key is not held. -/
  wanting_iff :
    service.outcome = .error .keysUnavailable ↔ before.Wanting service.keys answered reply token
  /-- They leave the same cache, which counts the same fetches. -/
  keys_eq : service.keys = after
  /-- A token that asks for no key is invalid, and the cache stays as it was. -/
  unasked : ¬ Token.Asks token → service.outcome = .error .tokenInvalid ∧
    (∃ reason, outcome = .error (.invalid reason)) ∧ service.keys = before
  /-- A service token is refused for a fault on the own side only when a fetch failed. -/
  service_fetchFails : ∀ refusal, service.outcome = .error refusal →
    refusal.isInfrastructure = true →
      ∃ fault, FetchFails before service.keys answered reply fault
  /-- So is a token of a project. -/
  user_fetchFails : ∀ fault, outcome = .error fault → fault.refusal.isInfrastructure = true →
    ∃ fault, FetchFails before after answered reply fault

/-- Verifications by lookups that may take their time go in step. -/
theorem verifyOver_inStep (settings : Service.Settings) (source : Service.TokenSource)
    (id token : String) (serviceTime userTime : Nat) (keys : KeyCache) (reply : Reply)
    (asked answered : Instant) :
    InStep keys answered reply token
      (Service.verifyOver settings keys asked answered serviceTime reply token source)
      ((User.Project.mk id keys).verifyOver asked answered userTime reply token).1
      ((User.Project.mk id keys).verifyOver asked answered userTime reply token).2.keys := by
  by_cases requested : Token.Asks token
  · obtain ⟨header, keyId, read, asks⟩ := requested
    have failed := (keys.lookup_course asked answered keyId reply).fetchFailed_iff
    rw [Service.verifyOver_of_asks read asks, User.Project.verifyOver_of_asks read asks]
    constructor
    case unavailable_iff =>
      exact Service.concluded_error.1.trans User.Project.concluded_error.1.symm
    case wanting_iff =>
      exact Service.concluded_error.1.trans (failed.trans (KeyCache.wanting_iff read asks).symm)
    case keys_eq => rfl
    case unasked => exact fun unasked => absurd ⟨header, keyId, read, asks⟩ unasked
    case service_fetchFails =>
      intro refusal refused infrastructure
      cases Service.concluded_error.2 refusal refused infrastructure
      exact (failed.mp (Service.concluded_error.1.mp refused)).1
    case user_fetchFails =>
      intro fault refused infrastructure
      obtain ⟨reason, rfl⟩ := User.Project.concluded_error.2 fault refused infrastructure
      exact (failed.mp (User.Project.concluded_error.1.mp ⟨reason, refused⟩)).1
  · obtain ⟨reason, unverified⟩ : ∃ reason,
        (User.Project.mk id keys).verifyOver asked answered userTime reply token =
          (.error (.invalid reason), ⟨id, keys⟩) :=
      User.Project.verifyOver_of_unasked requested
    rw [Service.verifyOver_of_unasked requested, unverified]
    constructor
    case unavailable_iff => simp
    case wanting_iff =>
      refine iff_of_false (by simp) ?_
      rintro ⟨header, keyId, read, asks, _⟩
      exact requested ⟨header, keyId, read, asks⟩
    case keys_eq => rfl
    case unasked => exact fun _ => ⟨rfl, ⟨reason, rfl⟩, rfl⟩
    -- An invalid token is no fault on the own side.
    case service_fetchFails => rintro _ ⟨⟩ ⟨⟩
    case user_fetchFails => rintro _ ⟨⟩ ⟨⟩

/-- On every cache, for every token and whatever becomes of a fetch, verifying a service token
and verifying the same token for a project go in step. So do the two by lookups that end later
than they began. -/
theorem verifiers_agree_on_keys (settings : Service.Settings) (source : Service.TokenSource)
    (id token : String) (serviceTime userTime : Nat) (keys : KeyCache) (reply : Reply) :
    (∀ now,
      let service := Service.verify settings keys now serviceTime reply token source
      let user := (User.Project.mk id keys).verify now userTime reply token
      InStep keys now reply token service user.outcome user.project.keys) ∧
    ∀ asked answered,
      InStep keys answered reply token
        (Service.verifyOver settings keys asked answered serviceTime reply token source)
        ((User.Project.mk id keys).verifyOver asked answered userTime reply token).1
        ((User.Project.mk id keys).verifyOver asked answered userTime reply token).2.keys := by
  refine ⟨fun now => ?_, verifyOver_inStep settings source id token serviceTime userTime keys reply⟩
  simp only [Service.verify_eq_verifyOver, User.Project.verify_eq_verifyOver.1,
    User.Project.verify_eq_verifyOver.2]
  exact verifyOver_inStep settings source id token serviceTime userTime keys reply now now

namespace Token.Sample

theorem issued_asks : Sample.header.AsksFor "key-a" := ⟨rfl, rfl, by decide⟩

theorem cold_unreached : (KeyCache.cold .standard).lookup fetched fetched "key-a" .unreachable =
    (.error (.fetchFailed .transport), (KeyCache.cold .standard).missed) := rfl

/-- What the service verifier makes of a token while the endpoint cannot be reached. -/
def unserved : Service.Verdict :=
  Service.verify ⟨"demo", [], Service.defaultLeeway⟩ (.cold .standard) fetched 1700000000
    .unreachable issued.token .authorization

/-- What the verifier of the project makes of it. -/
def unverified : User.Project.Verdict :=
  (User.Project.mk "demo" (.cold .standard)).verify fetched 1700000000 .unreachable issued.token

theorem unserved_eq : unserved = ⟨.error .keysUnavailable, (KeyCache.cold .standard).missed⟩ := by
  have read := Draft.header_ofToken_token issued_legible ofMembers?_header
  rw [unserved, Service.verify_eq_verifyOver, Service.verifyOver_of_asks read issued_asks,
    cold_unreached]
  rfl

/-- On a cold cache both verifiers miss the keys of a token after one fetch. -/
theorem issued_unavailable_to_both :
    unserved.outcome = .error .keysUnavailable ∧
      (∃ reason, unverified.outcome = .error (.unavailable reason)) ∧
      unserved.keys = unverified.project.keys ∧ unserved.keys.fetches = 1 := by
  have inStep : InStep (.cold .standard) fetched .unreachable issued.token unserved
      unverified.outcome unverified.project.keys := by
    unfold unserved unverified
    exact (verifiers_agree_on_keys ⟨"demo", [], Service.defaultLeeway⟩ .authorization "demo"
      issued.token 1700000000 1700000000 (.cold .standard) .unreachable).1 fetched
  have missing : unserved.outcome = .error .keysUnavailable := by rw [unserved_eq]
  have once : unserved.keys.fetches = 1 := by
    rw [unserved_eq]
    rfl
  exact ⟨missing, inStep.unavailable_iff.mp missing, inStep.keys_eq, once⟩

end Token.Sample

end Admission
