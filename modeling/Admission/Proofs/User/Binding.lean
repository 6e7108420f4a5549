import Admission.Proofs.Token.Draft
import Admission.User

/-!
# Binding of tokens to projects

A project accepts a token whose issuer and audience do not name another project. That
they name the project is not asked for: a token that leaves its issuer out, or has an
issuer or audience of a form that is not compared, is accepted as well.
-/

namespace Admission.User.Project

open Token (Claims ProvenBy)

variable {project : Project} {now : Instant} {time : Nat} {reply : Reply} {token : String}
  {claims : Claims} {verified : Verified}

/-- Issuer and audience name the project. -/
structure Bound (id : String) (claims : Claims) : Prop where
  issuer : Json.lookup? claims "iss" = some (.text (issuer id))
  audience : Claims.Names (Json.lookup? claims "aud") id

/-- Claims describe the user that their subject names. -/
theorem verifiedOf_eq_ok_iff :
    verifiedOf claims = .ok verified ↔
      Claims.text? claims "sub" = some verified.uid ∧ verified.uid ≠ "" ∧
        verified.claims = claims := by
  unfold verifiedOf
  cases said : Claims.text? claims "sub" with
  | none => simp
  | some subject =>
      by_cases empty : subject = ""
      · simp only [String.isEmpty_iff, empty, if_true, reduceCtorEq, Option.some.injEq, false_iff]
        rintro ⟨same, nonempty, _⟩
        exact nonempty same.symm
      · simp only [String.isEmpty_iff, empty, if_false, Except.ok.injEq, Option.some.injEq]
        constructor
        · rintro rfl
          exact ⟨rfl, empty, rfl⟩
        · rintro ⟨rfl, _, rfl⟩
          rfl

/-- A project accepts a token exactly when the keys after the lookup prove its claims,
these meet what is expected of the project's tokens, and they name a subject. -/
theorem verify_eq_ok_iff :
    (project.verify now time reply token).outcome = .ok verified ↔
      (∃ header, ProvenBy (project.verify now time reply token).project.keys token header
        verified.claims) ∧
        verified.claims.Meets (expectation project.id) time ∧
        Claims.text? verified.claims "sub" = some verified.uid ∧ verified.uid ≠ "" := by
  cases read : Token.Header.ofToken token with
  | error fault =>
      simp only [verify, read, reduceCtorEq, false_iff]
      rintro ⟨⟨header, proven⟩, _⟩
      rw [proven.read] at read
      cases read
  | ok header =>
      simp only [verify, read]
      constructor
      · intro accepted
        split at accepted
        · cases accepted
        · rename_i key found
          split at accepted
          · cases accepted
          · rename_i claims judged
            obtain ⟨said, nonempty, rfl⟩ := verifiedOf_eq_ok_iff.mp accepted
            obtain ⟨proven, meets⟩ := (Token.verify_with_key_iff read).mp ⟨key, found, judged⟩
            exact ⟨⟨header, proven⟩, meets, said, nonempty⟩
      · rintro ⟨⟨other, proven⟩, meets, said, nonempty⟩
        have same := proven.read
        rw [read] at same
        cases same
        obtain ⟨key, found, judged⟩ := (Token.verify_with_key_iff read).mpr ⟨proven, meets⟩
        simp only [found, judged]
        exact verifiedOf_eq_ok_iff.mpr ⟨said, nonempty, rfl⟩

/-- An accepted token names no other issuer and no other project, where it names them in a
form that is compared. So it is bound to the project exactly when its issuer is a text, and
its audience is a text or a list of texts or otherwise names the project. -/
theorem verify_bound_iff
    (accepted : (project.verify now time reply token).outcome = .ok verified) :
    (Claims.Compared (Json.lookup? verified.claims "iss") →
        Claims.Names (Json.lookup? verified.claims "iss") (issuer project.id)) ∧
      (Claims.Compared (Json.lookup? verified.claims "aud") →
        Claims.Names (Json.lookup? verified.claims "aud") project.id) ∧
      (Bound project.id verified.claims ↔
        (∃ value, Json.lookup? verified.claims "iss" = some (.text value)) ∧
          (Claims.Compared (Json.lookup? verified.claims "aud") ∨
            Claims.Names (Json.lookup? verified.claims "aud") project.id)) := by
  obtain ⟨_, meets, _⟩ := verify_eq_ok_iff.mp accepted
  have issuerNamed := meets.issuer (issuer project.id) rfl
  have audienceNamed := meets.audience project.id rfl
  refine ⟨issuerNamed, audienceNamed, ?_⟩
  constructor
  · rintro ⟨named, audience⟩
    exact ⟨⟨_, named⟩, .inr audience⟩
  · rintro ⟨⟨value, text⟩, audience⟩
    refine ⟨?_, audience.elim audienceNamed fun named => named⟩
    rcases issuerNamed (.inl ⟨value, text⟩) with named | ⟨items, listed, _⟩
    · exact named
    · rw [text] at listed
      cases listed

/-- A project whose keys were never fetched. -/
def demo : Project := ⟨"demo", .cold .standard⟩

theorem demo_keys {header : Token.Header} (read : Token.Header.ofToken token = .ok header) :
    (demo.verify now time reply token).project.keys =
      ((KeyCache.cold .standard).keyForHeader now header.algorithm header.keyId reply).cache := by
  simp only [verify, read, demo]

/-- A token that the fetched key proves is accepted where its claims meet what is expected of
the project's tokens. -/
theorem demo_accepts {draft : Token.Draft}
    (proven : ProvenBy ((KeyCache.cold .standard).keyForHeader Token.Sample.fetched
      Token.Sample.header.algorithm Token.Sample.header.keyId Token.Sample.reply).cache
      draft.token Token.Sample.header draft.claims)
    (meets : draft.claims.Meets (expectation "demo") 1700000000)
    (subject : Json.lookup? draft.claims "sub" = some (.text "fuid")) :
    (demo.verify Token.Sample.fetched 1700000000 Token.Sample.reply draft.token).outcome =
      .ok ⟨"fuid", draft.claims⟩ := by
  rw [verify_eq_ok_iff, demo_keys proven.read]
  exact ⟨⟨_, proven⟩, meets, Claims.text?_eq_some_iff.mpr subject, by simp⟩

/-- A token issued for the project is accepted and bound to it. -/
theorem issued_bound_iff :
    (demo.verify Token.Sample.fetched 1700000000 Token.Sample.reply
        Token.Sample.issued.token).outcome = .ok ⟨"fuid", Token.Sample.issued.claims⟩ ∧
      Bound "demo" Token.Sample.issued.claims := by
  have proven := Token.Sample.provenBy_issued
  have meets : Claims.Meets (expectation "demo") 1700000000 Token.Sample.issued.claims :=
    Token.claimFault?_eq_none_iff.mp (by decide +kernel)
  have accepted : (demo.verify Token.Sample.fetched 1700000000 Token.Sample.reply
      Token.Sample.issued.token).outcome = .ok ⟨"fuid", Token.Sample.issued.claims⟩ := by
    rw [verify_eq_ok_iff, demo_keys proven.read]
    exact ⟨⟨_, proven⟩, meets, rfl, by simp⟩
  exact ⟨accepted, (verify_bound_iff accepted).2.2.mpr ⟨⟨_, rfl⟩, .inl (.inl ⟨_, rfl⟩)⟩⟩

/-- A token that leaves its issuer out is accepted, and bound to no project. -/
theorem unissued_accepted_unbound :
    (demo.verify Token.Sample.fetched 1700000000 Token.Sample.reply
        Token.Sample.unissued.token).outcome = .ok ⟨"fuid", Token.Sample.unissued.claims⟩ ∧
      Json.lookup? Token.Sample.unissued.claims "iss" = none ∧
      ¬ Bound "demo" Token.Sample.unissued.claims := by
  have proven := Token.Sample.provenBy_unissued
  have meets : Claims.Meets (expectation "demo") 1700000000 Token.Sample.unissued.claims :=
    Token.claimFault?_eq_none_iff.mp (by decide +kernel)
  have absent : Json.lookup? Token.Sample.unissued.claims "iss" = none := rfl
  refine ⟨?_, absent, ?_⟩
  · rw [verify_eq_ok_iff, demo_keys proven.read]
    exact ⟨⟨_, proven⟩, meets, rfl, by simp⟩
  · intro bound
    rw [bound.issuer] at absent
    cases absent

end Admission.User.Project
