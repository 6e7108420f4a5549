import Mathlib.Data.List.Nodup
import Admission.Proofs.Token.Draft
import Admission.Service

/-!
# Which service tokens are accepted

A service token is accepted on the grounds that its header, signature and claims give,
and the caller is what its claims describe. A token without an issuer counts as one
whose issuer is the empty text.
-/

namespace Admission

/-- Where no name is repeated, each of some names occurs once at most. -/
theorem Json.once_of_nodup {members : List (String × Json)} {names : List String}
    (distinct : (members.map (·.1)).Nodup) : once members names = true := by
  simp only [once, List.all_eq_true, decide_eq_true_eq]
  intro name _
  have count := List.nodup_iff_count_le_one.mp distinct name
  rw [List.count, List.countP_map, List.countP_eq_length_filter] at count
  exact count

namespace Service

open Token (Claims ProvenBy)

variable {settings : Settings} {keys : KeyCache} {now : Instant} {time : Nat} {reply : Reply}
  {token : String} {source : TokenSource} {header : Token.Header} {claims : Claims}
  {caller : Caller}

/-- What a token shows when it is accepted for claims. -/
structure Grounds (settings : Settings) (keys : KeyCache) (time : Nat) (token : String)
    (header : Token.Header) (claims : Claims) : Prop where
  proven : ProvenBy keys token header claims
  current : ∃ expiry, Claims.expiry? claims = some expiry ∧
    time - settings.leeway.wholeSeconds ≤ expiry
  issuer : settings.allowedIssuers = [] ∨
    (∃ issuer ∈ settings.allowedIssuers, Json.lookup? claims "iss" = some (.text issuer)) ∨
    ("" ∈ settings.allowedIssuers ∧ ∀ value, Json.lookup? claims "iss" ≠ some (.text value))
  audience : Claims.Names (Json.lookup? claims "aud") settings.audience
  subject : ∃ subject, Json.lookup? claims "sub" = some (.text subject) ∧ subject ≠ ""

/-- A caller is what the claims of a token describe. -/
structure Describes (settings : Settings) (token : String) (source : TokenSource)
    (header : Token.Header) (claims : Claims) (caller : Caller) : Prop where
  subject : Json.lookup? claims "sub" = some (.text caller.subject)
  email : caller.email = Claims.text? claims "email"
  issuer : caller.issuer = (Claims.text? claims "iss").getD ""
  audience : caller.audience = settings.audience
  claims : caller.claims = claims
  header : caller.header = header
  token : caller.token = token
  source : caller.source = source

/-- The caller that the claims of a token describe when they have a subject. -/
def described (settings : Settings) (token : String) (source : TokenSource)
    (header : Token.Header) (claims : Claims) (subject : String) : Caller where
  subject := subject
  email := Claims.text? claims "email"
  issuer := (Claims.text? claims "iss").getD ""
  audience := settings.audience
  claims := claims
  header := header
  token := token
  source := source

theorem describes_described {subject : String}
    (named : Json.lookup? claims "sub" = some (.text subject)) :
    Describes settings token source header claims
      (described settings token source header claims subject) :=
  ⟨named, rfl, rfl, rfl, rfl, rfl, rfl, rfl⟩

/-- No member is repeated, and the time from which the token counts is no container with
anything in it. -/
structure WellFormed (claims : Claims) : Prop where
  distinct : (claims.map (·.1)).Nodup
  notBefore : ∀ value, Json.lookup? claims "nbf" = some value →
    Claims.isFilledContainer value = false

theorem audienceMatches_iff {claim : Option Json} {expected : String} :
    audienceMatches claim expected = true ↔ Claims.Names claim expected := by
  unfold audienceMatches
  split
  · simp [Claims.Names]
  · simp [Claims.Names, Json.text?_eq_some_iff]
  · rename_i noText noArray
    simp only [Bool.false_eq_true, false_iff]
    rintro (rfl | ⟨items, rfl, _⟩)
    · exact noText _ rfl
    · exact noArray _ rfl

/-- A list of issuers allows the issuer of a token, or the empty text where there is none. -/
theorem allows_iff {allowed : List String} :
    (Claims.text? claims "iss").getD "" ∈ allowed ↔
      (∃ issuer ∈ allowed, Json.lookup? claims "iss" = some (.text issuer)) ∨
        ("" ∈ allowed ∧ ∀ value, Json.lookup? claims "iss" ≠ some (.text value)) := by
  simp only [← Claims.text?_eq_some_iff, ne_eq]
  cases Claims.text? claims "iss" <;> simp

/-- The caller of claims is the one they describe, where issuer, audience and subject are
in order. -/
theorem callerOf_eq_ok_iff :
    callerOf settings header claims token source = .ok caller ↔
      (settings.allowedIssuers = [] ∨
        (Claims.text? claims "iss").getD "" ∈ settings.allowedIssuers) ∧
      Claims.Names (Json.lookup? claims "aud") settings.audience ∧
      caller.subject ≠ "" ∧ Describes settings token source header claims caller := by
  unfold callerOf
  simp only [Outcome.ite_error_eq_ok_iff]
  refine and_congr ?issuer (and_congr ?audience ?subject)
  case issuer => by_cases free : settings.allowedIssuers = [] <;> simp [free]
  case audience => simp [audienceMatches_iff]
  case subject =>
    cases said : Claims.text? claims "sub" with
    | none =>
        simp only [reduceCtorEq, false_iff]
        rintro ⟨_, described⟩
        rw [Claims.text?_eq_some_iff.mpr described.subject] at said
        cases said
    | some subject =>
        have named := Claims.text?_eq_some_iff.mp said
        by_cases empty : subject = ""
        · simp only [String.isEmpty_iff, empty, if_true, reduceCtorEq, false_iff]
          rintro ⟨nonempty, described⟩
          have same := described.subject
          rw [named, empty] at same
          exact nonempty (Json.text.inj (Option.some.inj same)).symm
        · simp only [String.isEmpty_iff, empty, if_false, pure, Except.pure, Except.ok.injEq]
          constructor
          · rintro rfl
            exact ⟨empty, ⟨named, rfl, rfl, rfl, rfl, rfl, rfl, rfl⟩⟩
          · rintro ⟨_, described⟩
            have same := described.subject
            rw [named, Option.some.injEq, Json.text.injEq] at same
            obtain ⟨_⟩ := caller
            rw [Caller.mk.injEq]
            exact ⟨same, described.email.symm, described.issuer.symm, described.audience.symm,
              described.claims.symm, described.header.symm, described.token.symm,
              described.source.symm⟩

/-- A header that names RS256 is verified with the key it asks for. -/
theorem verify_of_header (read : Token.Header.ofToken token = .ok header)
    (algorithm : header.algorithm = "RS256") :
    (verify settings keys now time reply token source).outcome = .ok caller ↔
      ∃ claims, (∃ key,
        (keys.keyForHeader now header.algorithm header.keyId reply).result = .ok key ∧
          Token.verify ⟨settings.leeway, none, none⟩ time key token = .ok claims) ∧
        callerOf settings header claims token source = .ok caller := by
  simp only [verify, read]
  rw [if_neg (not_not.mpr algorithm)]
  cases found : (keys.keyForHeader now header.algorithm header.keyId reply).result with
  | error fault => simp
  | ok key =>
      cases judged : Token.verify ⟨settings.leeway, none, none⟩ time key token with
      | error fault => simp [judged]
      | ok claims => simp [judged]

/-- The keys after a verification are those after the lookup that its header asks for. -/
theorem verify_keys (read : Token.Header.ofToken token = .ok header)
    (algorithm : header.algorithm = "RS256") :
    (verify settings keys now time reply token source).keys =
      (keys.keyForHeader now header.algorithm header.keyId reply).cache := by
  simp only [verify, read]
  rw [if_neg (not_not.mpr algorithm)]
  split
  · rfl
  · split <;> rfl

/-- A token is accepted exactly when the keys after the lookup prove its claims, these meet
what is expected of every token, and they describe the caller. -/
theorem verify_eq_ok_iff :
    (verify settings keys now time reply token source).outcome = .ok caller ↔
      ∃ header claims,
        ProvenBy (verify settings keys now time reply token source).keys token header claims ∧
          claims.Meets ⟨settings.leeway, none, none⟩ time ∧
          callerOf settings header claims token source = .ok caller := by
  constructor
  · intro accepted
    cases read : Token.Header.ofToken token with
    | error fault =>
        simp only [verify, read] at accepted
        cases accepted
    | ok header =>
        by_cases algorithm : header.algorithm = "RS256"
        · obtain ⟨claims, signed, called⟩ := (verify_of_header read algorithm).mp accepted
          obtain ⟨proven, meets⟩ := (Token.verify_with_key_iff read).mp signed
          exact ⟨header, claims, by rwa [verify_keys read algorithm], meets, called⟩
        · simp only [verify, read, ne_eq, algorithm, not_false_eq_true, if_true] at accepted
          cases accepted
  · rintro ⟨header, claims, proven, meets, called⟩
    rw [verify_keys proven.read proven.algorithm] at proven
    exact (verify_of_header proven.read proven.algorithm).mpr
      ⟨claims, (Token.verify_with_key_iff proven.read).mpr ⟨proven, meets⟩, called⟩

theorem meets_iff (lenient : settings.leeway.wholeSeconds ≤ time) :
    claims.Meets ⟨settings.leeway, none, none⟩ time ↔
      Claims.readable claims = true ∧ ∃ expiry, Claims.expiry? claims = some expiry ∧
        time - settings.leeway.wholeSeconds ≤ expiry := by
  have earliest : Token.earliestExpiry time settings.leeway =
      time - settings.leeway.wholeSeconds := if_pos lenient
  constructor
  · rintro ⟨readable, current, _, _⟩
    exact ⟨readable, earliest ▸ current⟩
  · rintro ⟨readable, current⟩
    exact ⟨readable, earliest ▸ current, (fun _ none => nomatch none),
      (fun _ none => nomatch none)⟩

namespace Grounds

variable (grounds : Grounds settings keys time token header claims)

include grounds

/-- Well-formed claims with a subject and a time of expiry can be read. -/
theorem readable (wellFormed : WellFormed claims) : Claims.readable claims = true := by
  obtain ⟨expiry, expires, _⟩ := grounds.current
  obtain ⟨subject, named, _⟩ := grounds.subject
  have plainExpiry : (Json.lookup? claims "exp").any Claims.isFilledContainer = false := by
    simp only [Claims.expiry?, Option.bind_eq_bind, Option.bind_eq_some_iff] at expires
    obtain ⟨value, found, seconds⟩ := expires
    rw [found, Option.any_some]
    cases value <;> simp [Claims.seconds?] at seconds
    rfl
  have plainStart : (Json.lookup? claims "nbf").any Claims.isFilledContainer = false := by
    cases found : Json.lookup? claims "nbf" with
    | none => rfl
    | some value => exact wellFormed.notBefore value found
  simp [Claims.readable, Json.once_of_nodup wellFormed.distinct, named, Claims.isContainer,
    plainExpiry, plainStart]

end Grounds

/-- With a leeway that does not reach before the start of time, an accepted token has all
the grounds, and the caller is the one it describes; and a token with all the grounds is
accepted when its claims are well formed. -/
theorem verify_accepts_grounded (lenient : settings.leeway.wholeSeconds ≤ time) :
    (∀ caller, (verify settings keys now time reply token source).outcome = .ok caller →
        ∃ header claims,
          Grounds settings (verify settings keys now time reply token source).keys time token
            header claims ∧
          Describes settings token source header claims caller) ∧
      ∀ header claims,
        Grounds settings (verify settings keys now time reply token source).keys time token
            header claims →
          WellFormed claims →
            ∃ caller, (verify settings keys now time reply token source).outcome = .ok caller ∧
              Describes settings token source header claims caller := by
  constructor
  · intro caller accepted
    obtain ⟨header, claims, proven, meets, called⟩ := verify_eq_ok_iff.mp accepted
    obtain ⟨_, current⟩ := (meets_iff lenient).mp meets
    obtain ⟨issuer, audience, nonempty, described⟩ := callerOf_eq_ok_iff.mp called
    exact ⟨header, claims, ⟨proven, current, issuer.imp_right allows_iff.mp, audience,
      caller.subject, described.subject, nonempty⟩, described⟩
  · intro header claims grounds wellFormed
    obtain ⟨subject, named, nonempty⟩ := grounds.subject
    have meets := (meets_iff lenient).mpr ⟨grounds.readable wellFormed, grounds.current⟩
    have called : callerOf settings header claims token source =
        .ok (described settings token source header claims subject) :=
      callerOf_eq_ok_iff.mpr ⟨grounds.issuer.imp_right allows_iff.mpr, grounds.audience, nonempty,
        describes_described named⟩
    exact ⟨_, verify_eq_ok_iff.mpr ⟨header, claims, grounds.proven, meets, called⟩,
      describes_described named⟩

/-- The verification of a token of the project `demo` with allowed issuers, by a cache that
fetches its key. -/
def verifyDemo (allowedIssuers : List String) (token : String) : Verdict :=
  verify ⟨"demo", allowedIssuers, defaultLeeway⟩ (.cold .standard) Token.Sample.fetched 1700000000
    Token.Sample.reply token .authorization

/-- A token of the project that the fetched key proves is accepted where every issuer is. -/
theorem verifyDemo_accepts {draft : Token.Draft}
    (proven : ProvenBy ((KeyCache.cold .standard).keyForHeader Token.Sample.fetched
      Token.Sample.header.algorithm Token.Sample.header.keyId Token.Sample.reply).cache
      draft.token Token.Sample.header draft.claims)
    (meets : draft.claims.Meets ⟨defaultLeeway, none, none⟩ 1700000000)
    (audience : Json.lookup? draft.claims "aud" = some (.text "demo"))
    (subject : Json.lookup? draft.claims "sub" = some (.text "fuid")) :
    (verifyDemo [] draft.token).outcome =
      .ok (described ⟨"demo", [], defaultLeeway⟩ draft.token .authorization Token.Sample.header
        draft.claims "fuid") := by
  refine verify_eq_ok_iff.mpr ⟨Token.Sample.header, draft.claims, ?_, meets, ?_⟩
  · rw [verify_keys proven.read rfl]
    exact proven
  · exact callerOf_eq_ok_iff.mpr ⟨.inl rfl, .inl audience, by simp [described],
      describes_described subject⟩

/-- A token of an allowed issuer is accepted on all the grounds. -/
theorem issued_accepts_grounded :
    ∃ caller, (verifyDemo ["https://securetoken.google.com/demo"]
        Token.Sample.issued.token).outcome = .ok caller ∧
      caller.subject = "fuid" ∧ caller.issuer = "https://securetoken.google.com/demo" := by
  have proven := Token.Sample.provenBy_issued
  have audience : Claims.Names (Json.lookup? Token.Sample.issued.claims "aud") "demo" := .inl rfl
  have grounds : Grounds ⟨"demo", ["https://securetoken.google.com/demo"], defaultLeeway⟩
      (verifyDemo ["https://securetoken.google.com/demo"] Token.Sample.issued.token).keys
      1700000000 Token.Sample.issued.token Token.Sample.header Token.Sample.issued.claims := by
    refine ⟨?_, ⟨4102444800, rfl, by decide⟩, .inr (.inl ⟨_, List.mem_cons_self, rfl⟩), audience,
      "fuid", rfl, by simp⟩
    rw [verifyDemo, verify_keys proven.read rfl]
    exact proven
  have wellFormed : WellFormed Token.Sample.issued.claims :=
    ⟨by decide, fun value found => nomatch found⟩
  obtain ⟨caller, accepted, described⟩ :=
    (verify_accepts_grounded (by decide)).2 _ _ grounds wellFormed
  have subject : Json.lookup? Token.Sample.issued.claims "sub" = some (.text "fuid") := rfl
  rw [described.subject] at subject
  exact ⟨caller, accepted, Json.text.inj (Option.some.inj subject), described.issuer⟩

/-- A token without an issuer is accepted where the list of issuers is not empty but holds
the empty text. -/
theorem unissued_accepted_emptyIssuer :
    ∃ caller, (verifyDemo [""] Token.Sample.unissued.token).outcome = .ok caller ∧
      caller.claims = Token.Sample.unissued.claims ∧
      ∀ issuer ∈ [""], Json.lookup? caller.claims "iss" ≠ some (.text issuer) := by
  have proven := Token.Sample.provenBy_unissued
  have meets : Claims.Meets ⟨defaultLeeway, none, none⟩ 1700000000 Token.Sample.unissued.claims :=
    Token.claimFault?_eq_none_iff.mp (by decide +kernel)
  have audience : Claims.Names (Json.lookup? Token.Sample.unissued.claims "aud") "demo" := .inl rfl
  have called : callerOf ⟨"demo", [""], defaultLeeway⟩ Token.Sample.header
      Token.Sample.unissued.claims Token.Sample.unissued.token .authorization =
        .ok (described ⟨"demo", [""], defaultLeeway⟩ Token.Sample.unissued.token .authorization
          Token.Sample.header Token.Sample.unissued.claims "fuid") :=
    callerOf_eq_ok_iff.mpr ⟨.inr List.mem_cons_self, audience, by simp [described],
      describes_described rfl⟩
  have absent : Json.lookup? Token.Sample.unissued.claims "iss" = none := rfl
  refine ⟨_, verify_eq_ok_iff.mpr ⟨Token.Sample.header, _, ?_, meets, called⟩, rfl, ?_⟩
  · rw [verify_keys proven.read rfl]
    exact proven
  · simp [described, absent]

end Service
end Admission
