import Mathlib.Logic.Basic
import Admission.Proofs.Json.Members
import Admission.Proofs.KeySet.Lookup
import Admission.Proofs.Outcome
import Admission.Token.Claims

/-!
# What accepted tokens are known for

A token is accepted when it names RS256, is signed under the key at hand and its
claims meet the expectation. Issuer and audience are part of that only so far as
the claims say them in a form that is compared.
-/

namespace Admission.Token

variable {key : RsaKey} {token : String} {claims : Claims} {expectation : Expectation}
  {time : Nat} {claim : Option Json} {expected : String}

/-- A token is signed under a key and says claims. -/
def SignedWith (key : RsaKey) (token : String) (claims : Claims) : Prop :=
  ∃ parts signature, Compact.ofToken token = .ok parts ∧
    partBytes parts.signature = .ok signature ∧ key.verifies parts.signed signature = true ∧
    partMembers parts.payload = .ok claims

namespace Claims

/-- A claim names a text: it is that text, or a list with it. -/
def Names (claim : Option Json) (expected : String) : Prop :=
  claim = some (.text expected) ∨ ∃ items, claim = some (.array items) ∧ .text expected ∈ items

/-- A claim is in a form that is compared: a text or a list of texts. -/
def Compared (claim : Option Json) : Prop :=
  (∃ value, claim = some (.text value)) ∨
    ∃ values : List String, claim = some (.array (values.map .text))

theorem text?_eq_some_iff {name content : String} :
    text? claims name = some content ↔ Json.lookup? claims name = some (.text content) := by
  cases found : Json.lookup? claims name <;> simp [text?, found, Json.text?_eq_some_iff]

theorem mapM_text?_eq_some_iff {items : List Json} {values : List String} :
    items.mapM Json.text? = some values ↔ items = values.map .text := by
  induction items generalizing values with
  | nil => cases values <;> simp
  | cons item items inductionHypothesis =>
      simp only [List.mapM_cons, Option.bind_eq_bind, Option.bind_eq_some_iff, Option.pure_def,
        Option.some.injEq, Json.text?_eq_some_iff, inductionHypothesis]
      constructor
      · rintro ⟨first, rfl, rest, rfl, rfl⟩
        rfl
      · intro same
        cases values with
        | nil => cases same
        | cons first rest =>
            obtain ⟨rfl, rfl⟩ := List.cons.inj same
            exact ⟨first, rfl, rest, rfl, rfl⟩

/-- A claim agrees with what is expected exactly when it names it or is not compared. -/
theorem contradicts_eq_false_iff :
    contradicts claim expected = false ↔ (Compared claim → Names claim expected) := by
  unfold contradicts
  split
  · simp [Compared, Names]
  · rename_i items
    cases texts : items.mapM Json.text? with
    | some values =>
        obtain rfl := mapM_text?_eq_some_iff.mp texts
        simp [Compared, Names]
    | none =>
        have unlike : ∀ values : List String, items ≠ values.map .text := by
          intro values same
          rw [mapM_text?_eq_some_iff.mpr same] at texts
          cases texts
        simp [Compared, unlike]
  · rename_i noText noArray
    simp only [Compared, true_iff]
    rintro (⟨value, rfl⟩ | ⟨values, rfl⟩)
    · exact absurd rfl (noText value)
    · exact absurd rfl (noArray _)

/-- The claims meet an expectation at a time. -/
structure Meets (expectation : Expectation) (time : Nat) (claims : Claims) : Prop where
  readable : Claims.readable claims = true
  current : ∃ expiry, Claims.expiry? claims = some expiry ∧
    earliestExpiry time expectation.leeway ≤ expiry
  issuer : ∀ issuer ∈ expectation.issuer,
    Compared (Json.lookup? claims "iss") → Names (Json.lookup? claims "iss") issuer
  audience : ∀ audience ∈ expectation.audience,
    Compared (Json.lookup? claims "aud") → Names (Json.lookup? claims "aud") audience

theorem any_contradicts_eq_false_iff {expectations : Option String} :
    expectations.any (contradicts claim) = false ↔
      ∀ expected ∈ expectations, Compared claim → Names claim expected := by
  cases expectations <;> simp [contradicts_eq_false_iff]

end Claims

/-- No fault is found in claims that meet the expectation, and in no others. -/
theorem claimFault?_eq_none_iff :
    claimFault? expectation time claims = none ↔ claims.Meets expectation time := by
  constructor
  · intro none
    unfold claimFault? at none
    split at none
    · cases none
    · rename_i readable
      split at none
      · cases none
      · rename_i expiry expires
        split at none
        · cases none
        · rename_i current
          split at none
          · cases none
          · rename_i issuer
            split at none
            · cases none
            · rename_i audience
              exact ⟨by simpa using readable, ⟨expiry, expires, Nat.le_of_not_lt current⟩,
                Claims.any_contradicts_eq_false_iff.mp (by simpa using issuer),
                Claims.any_contradicts_eq_false_iff.mp (by simpa using audience)⟩
  · rintro ⟨readable, ⟨expiry, expires, current⟩, issuer, audience⟩
    rw [← Claims.any_contradicts_eq_false_iff] at issuer audience
    simp [claimFault?, readable, expires, Nat.not_lt.mpr current, issuer, audience]

/-- A token is accepted for the claims it is signed with, when its header names RS256 and
the claims meet the expectation. -/
theorem verify_eq_ok_iff :
    verify expectation time key token = .ok claims ↔
      (∃ header, Header.ofToken token = .ok header ∧ header.algorithm = "RS256") ∧
        SignedWith key token claims ∧ Claims.Meets expectation time claims := by
  unfold verify
  simp only [Outcome.bind_eq_ok_iff, Outcome.ite_error_eq_ok_iff, Bool.not_eq_true',
    Bool.not_eq_false, not_not, ne_eq]
  constructor
  · rintro ⟨parts, split, header, read, algorithm, signature, written, right, members, stated,
      accepted⟩
    cases judged : claimFault? expectation time members with
    | some fault =>
        rw [judged] at accepted
        cases accepted
    | none =>
        rw [judged] at accepted
        cases accepted
        exact ⟨⟨header, read, algorithm⟩, ⟨parts, signature, split, written, right, stated⟩,
          claimFault?_eq_none_iff.mp judged⟩
  · rintro ⟨⟨header, read, algorithm⟩, ⟨parts, signature, split, written, right, stated⟩, meets⟩
    refine ⟨parts, split, header, read, algorithm, signature, written, right, claims, stated, ?_⟩
    rw [claimFault?_eq_none_iff.mpr meets]

/-- The keys of a cache prove that a token says claims: its header names RS256 and the
identifier of a key that it is signed with. -/
structure ProvenBy (keys : KeyCache) (token : String) (header : Header) (claims : Claims) :
    Prop where
  read : Header.ofToken token = .ok header
  algorithm : header.algorithm = "RS256"
  signed : ∃ keyId key, header.keyId = some keyId ∧ keyId ≠ "" ∧ keys.Holds keyId key ∧
    SignedWith key token claims

/-- With the key that its header asks for a token is accepted for claims exactly when the
keys after the lookup prove them and they meet the expectation. -/
theorem verify_with_key_iff {keys : KeyCache} {now : Instant} {reply : Reply} {header : Header}
    (read : Header.ofToken token = .ok header) :
    (∃ key, (keys.keyForHeader now header.algorithm header.keyId reply).result = .ok key ∧
        verify expectation time key token = .ok claims) ↔
      ProvenBy (keys.keyForHeader now header.algorithm header.keyId reply).cache token header
          claims ∧
        claims.Meets expectation time := by
  constructor
  · rintro ⟨key, found, accepted⟩
    obtain ⟨algorithm, keyId, named, nonempty, holds⟩ := KeyCache.keyForHeader_eq_ok_iff.mp found
    obtain ⟨_, signed, meets⟩ := verify_eq_ok_iff.mp accepted
    exact ⟨⟨read, algorithm, keyId, key, named, nonempty, holds, signed⟩, meets⟩
  · rintro ⟨⟨_, algorithm, keyId, key, named, nonempty, holds, signed⟩, meets⟩
    exact ⟨key, KeyCache.keyForHeader_eq_ok_iff.mpr ⟨algorithm, keyId, named, nonempty, holds⟩,
      verify_eq_ok_iff.mpr ⟨⟨header, read, algorithm⟩, signed, meets⟩⟩

end Admission.Token
