import Admission.Proofs.Service.Acceptance
import Admission.Proofs.Settings.Reading

/-!
# Issuers that the environment allows

The issuer that a token names is the only thing for which allowed issuers are ever consulted.
So a variable that holds the name of an issuer restricts callers to the issuers it holds, and a
variable that holds nothing but commas and blanks restricts nobody.
-/

namespace Admission

namespace Service

open Token (Claims)

variable {settings : Settings} {keys : KeyCache} {now : Instant} {time : Nat} {reply : Reply}
  {token : String} {source : TokenSource} {header : Token.Header} {claims : Claims}
  {caller : Caller}

/-- The same expectations of tokens from any issuer. -/
def Settings.anyIssuer (settings : Settings) : Settings := { settings with allowedIssuers := [] }

theorem callerOf_anyIssuer_iff :
    callerOf settings header claims token source = .ok caller ↔
      callerOf settings.anyIssuer header claims token source = .ok caller ∧
        (settings.allowedIssuers = [] ∨
          (Claims.text? claims "iss").getD "" ∈ settings.allowedIssuers) := by
  have same : Describes settings token source header claims caller ↔
      Describes settings.anyIssuer token source header claims caller :=
    ⟨fun described => { described with }, fun described => { described with }⟩
  rw [callerOf_eq_ok_iff, callerOf_eq_ok_iff, same]
  simp only [Settings.anyIssuer, true_or, true_and]
  exact and_comm

/-- The keys are looked up whatever issuers are allowed. -/
theorem verify_keys_anyIssuer :
    (verify settings.anyIssuer keys now time reply token source).keys =
      (verify settings keys now time reply token source).keys := by
  cases read : Token.Header.ofToken token with
  | error fault => simp only [verify, read]
  | ok header =>
      by_cases algorithm : header.algorithm = "RS256"
      · rw [verify_keys read algorithm, verify_keys read algorithm]
      · simp only [verify, read, ne_eq, algorithm, not_false_eq_true, if_true]

/-- A token is accepted exactly when it is accepted from any issuer and names an allowed one,
where only some are allowed. -/
theorem verify_anyIssuer_iff :
    (verify settings keys now time reply token source).outcome = .ok caller ↔
      (verify settings.anyIssuer keys now time reply token source).outcome = .ok caller ∧
        (settings.allowedIssuers = [] ∨
          (Claims.text? caller.claims "iss").getD "" ∈ settings.allowedIssuers) := by
  rw [verify_eq_ok_iff, verify_eq_ok_iff, verify_keys_anyIssuer]
  constructor
  · rintro ⟨header, claims, proven, meets, called⟩
    obtain ⟨free, allowed⟩ := callerOf_anyIssuer_iff.mp called
    rw [(callerOf_eq_ok_iff.mp called).2.2.2.claims]
    exact ⟨⟨header, claims, proven, meets, free⟩, allowed⟩
  · rintro ⟨⟨header, claims, proven, meets, free⟩, allowed⟩
    rw [(callerOf_eq_ok_iff.mp free).2.2.2.claims] at allowed
    exact ⟨header, claims, proven, meets, callerOf_anyIssuer_iff.mpr ⟨free, allowed⟩⟩

end Service

namespace Settings

open Service (TokenSource Caller verify)

variable {lookup : Lookup} {settings : Settings} {audience raw issuer : String}

/-- With an audience and a list of issuers the service routes expect that audience, and a token
is accepted exactly when it is accepted from any issuer and its issuer is a text that is written
in the list, or nothing but blanks is written there. -/
theorem callers_accept_iff (loaded : ofLookup lookup = .ok settings)
    (named : value? lookup "OIDC_AUDIENCE" = some audience)
    (held : lookup "OIDC_ALLOWED_ISSUERS" = some raw) :
    ∃ callers, settings.callers = some callers ∧ callers.audience = audience ∧
      ∀ keys now time reply token source caller,
        (verify callers keys now time reply token source).outcome = .ok caller ↔
          (verify callers.anyIssuer keys now time reply token source).outcome = .ok caller ∧
            ((∀ item ∈ written raw, item = "") ∨
              ∃ issuer ∈ written raw, issuer ≠ "" ∧
                Json.lookup? caller.claims "iss" = some (.text issuer)) := by
  have configured := callers_of_ofLookup loaded
  rw [named, Option.map_some] at configured
  refine ⟨_, configured, rfl, ?_⟩
  intro keys now time reply token source caller
  rw [Service.verify_anyIssuer_iff, Service.allows_iff]
  refine and_congr_right fun _ => or_congr (listed_eq_nil_iff held) ?_
  simp only [mem_listed_iff, held, Option.some.injEq, exists_eq_left', ne_eq, not_true_eq_false,
    and_false, false_and, or_false, and_assoc]

namespace Demo

open Token.Sample (issued unissued fetched reply)

/-- The variables of a program that serves one audience to a list of issuers. -/
def environment (issuers : String) : Lookup := fun name =>
  if name = "OIDC_AUDIENCE" then some "demo"
  else if name = "OIDC_ALLOWED_ISSUERS" then some issuers
  else none

/-- The settings that the variables give. -/
def loaded (issuers : List String) : Settings where
  host := "0.0.0.0"
  port := 8080
  logFormat := .pretty
  clockSkew := .seconds 300
  nonceLifetime := .seconds 600
  maxBodyBytes := 1048576
  secretTimeout := .milliseconds 2000
  webhookProviders := []
  service := some ⟨serviceKeyAddress, "demo", issuers⟩
  users := none
  defaultKeyLifetime := .seconds 900
  maxKeyLifetime := .seconds 86400
  fetchTimeout := .milliseconds 5000
  forcedInterval := .seconds 30

theorem ofLookup_environment (raw : String) :
    ofLookup (environment raw) =
      .ok (loaded (listed (environment raw) "OIDC_ALLOWED_ISSUERS")) := rfl

/-- Issuers around which blanks are written. -/
def issuers : String := " https://securetoken.google.com/demo ,, https://accounts.example "

theorem issuer_written : "https://securetoken.google.com/demo" ∈ written issuers := by
  decide +kernel

theorem meets_issued : issued.claims.Meets ⟨Service.defaultLeeway, none, none⟩ 1700000000 :=
  Token.claimFault?_eq_none_iff.mp (by decide +kernel)

theorem meets_unissued : unissued.claims.Meets ⟨Service.defaultLeeway, none, none⟩ 1700000000 :=
  Token.claimFault?_eq_none_iff.mp (by decide +kernel)

/-- Where issuers are listed, a token of one of them is accepted, and a token without an issuer
is not. -/
theorem listed_issuer_accepted :
    ∃ settings callers, ofLookup (environment issuers) = .ok settings ∧
      settings.callers = some callers ∧
      (∃ caller, (verify callers (.cold .standard) fetched 1700000000 reply issued.token
        .authorization).outcome = .ok caller) ∧
      ∀ caller, (verify callers (.cold .standard) fetched 1700000000 reply unissued.token
        .authorization).outcome ≠ .ok caller := by
  have named : value? (environment issuers) "OIDC_AUDIENCE" = some "demo" := rfl
  obtain ⟨callers, configured, _, accepts⟩ :=
    callers_accept_iff (ofLookup_environment issuers) named rfl
  have free : callers.anyIssuer = ⟨"demo", [], Service.defaultLeeway⟩ := by
    cases configured
    rfl
  refine ⟨_, callers, ofLookup_environment issuers, configured, ?accepted, ?refused⟩
  case accepted =>
    have freely := Service.verifyDemo_accepts Token.Sample.provenBy_issued meets_issued rfl rfl
    rw [Service.verifyDemo, ← free] at freely
    exact ⟨_, (accepts ..).mpr ⟨freely, .inr ⟨_, issuer_written, by decide, rfl⟩⟩⟩
  case refused =>
    intro caller accepted
    obtain ⟨freely, allowed⟩ := (accepts ..).mp accepted
    have described :=
      Service.verifyDemo_accepts Token.Sample.provenBy_unissued meets_unissued rfl rfl
    rw [free, ← Service.verifyDemo, described] at freely
    cases freely
    rcases allowed with blank | ⟨issuer, _, _, named⟩
    · exact absurd (blank _ issuer_written) (by decide)
    · cases named

/-- Where nothing but a comma is listed, a token is accepted whose issuer is not written there. -/
theorem comma_accepts_unlisted :
    Text.trim "," ≠ "" ∧
      ∃ settings callers caller, ofLookup (environment ",") = .ok settings ∧
        settings.callers = some callers ∧
        (verify callers (.cold .standard) fetched 1700000000 reply issued.token
          .authorization).outcome = .ok caller ∧
        ∀ issuer ∈ written ",", Json.lookup? caller.claims "iss" ≠ some (.text issuer) := by
  have configured := callers_of_ofLookup (ofLookup_environment ",")
  refine ⟨by decide, _, _, _, ofLookup_environment ",", configured,
    Service.verifyDemo_accepts Token.Sample.provenBy_issued meets_issued rfl rfl, ?_⟩
  intro issuer among named
  have blank : ∀ item ∈ written ",", item = "" := by decide
  have issued : Json.lookup? issued.claims "iss" =
      some (.text "https://securetoken.google.com/demo") := rfl
  have same : some (Json.text "https://securetoken.google.com/demo") = some (.text issuer) :=
    issued.symm.trans named
  rw [blank issuer among] at same
  simp at same

end Demo
end Settings
end Admission
