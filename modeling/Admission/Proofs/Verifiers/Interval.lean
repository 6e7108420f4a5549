import Admission.Proofs.Service.Acceptance
import Admission.Proofs.Token.Interval
import Admission.Proofs.User.Binding

/-!
# Times that both verifiers accept tokens for

Service tokens and tokens of a project are accepted until their time of expiry, with the leeway
of the settings or of projects. From when on a token counts makes no difference to either: a
token that is accepted is accepted with any such time as soon as it is signed.
-/

namespace Admission

open Token (Claims ProvenBy)

variable {time : Nat} {now : Instant} {reply : Reply} {token late : String} {start : Json.Number}

namespace Service

variable {settings : Settings} {keys : KeyCache} {source : TokenSource} {caller : Caller}

/-- A caller whose token counts from some time on. -/
def Caller.startingAt (caller : Caller) (start : Json.Number) (token : String) : Caller :=
  { caller with claims := caller.claims.startingAt start, token := token }

theorem lastsUntil_of_accepted (lenient : settings.leeway.wholeSeconds ≤ time)
    (accepted : (verify settings keys now time reply token source).outcome = .ok caller) :
    caller.claims.LastsUntil (time - settings.leeway.wholeSeconds) := by
  obtain ⟨header, claims, _, meets, called⟩ := verify_eq_ok_iff.mp accepted
  rw [(callerOf_eq_ok_iff.mp called).2.2.2.claims]
  exact meets.lastsUntil lenient

/-- A token is accepted with any time from which it counts, once its keys prove it. -/
theorem accepted_startingAt
    (accepted : (verify settings keys now time reply token source).outcome = .ok caller)
    (proven : ProvenBy (verify settings keys now time reply late source).keys late caller.header
      (caller.claims.startingAt start)) :
    (verify settings keys now time reply late source).outcome =
      .ok (caller.startingAt start late) := by
  obtain ⟨header, claims, _, meets, called⟩ := verify_eq_ok_iff.mp accepted
  obtain ⟨issuer, audience, nonempty, described⟩ := callerOf_eq_ok_iff.mp called
  rw [described.claims, described.header] at proven
  refine verify_eq_ok_iff.mpr ⟨header, claims.startingAt start, proven, meets.startingAt, ?_⟩
  refine callerOf_eq_ok_iff.mpr ⟨?issuer, ?audience, nonempty, ?described⟩
  case issuer => rwa [Claims.text?_startingAt (by decide)]
  case audience => rwa [Claims.lookup?_startingAt (by decide)]
  case described =>
    exact {
      subject := by
        rw [Claims.lookup?_startingAt (by decide)]
        exact described.subject
      email := by
        rw [Claims.text?_startingAt (by decide)]
        exact described.email
      issuer := by
        rw [Claims.text?_startingAt (by decide)]
        exact described.issuer
      audience := described.audience
      claims := by rw [Caller.startingAt, described.claims]
      header := described.header
      token := rfl
      source := described.source }

end Service

namespace User.Project

variable {project : Project} {verified : Verified} {header : Token.Header}

theorem lastsUntil_of_accepted (lenient : leeway.wholeSeconds ≤ time)
    (accepted : (project.verify now time reply token).outcome = .ok verified) :
    verified.claims.LastsUntil (time - leeway.wholeSeconds) :=
  (verify_eq_ok_iff.mp accepted).2.1.lastsUntil lenient

/-- A token is accepted with any time from which it counts, once its keys prove it. -/
theorem accepted_startingAt
    (accepted : (project.verify now time reply token).outcome = .ok verified)
    (proven : ProvenBy (project.verify now time reply late).project.keys late header
      (verified.claims.startingAt start)) :
    (project.verify now time reply late).outcome =
      .ok ⟨verified.uid, verified.claims.startingAt start⟩ := by
  obtain ⟨_, meets, said, nonempty⟩ := verify_eq_ok_iff.mp accepted
  refine verify_eq_ok_iff.mpr ⟨⟨header, proven⟩, meets.startingAt, ?_, nonempty⟩
  rwa [Claims.text?_startingAt (by decide)]

end User.Project

namespace Token

/-- Whatever the settings, the keys and the token, neither verifier accepts a token whose time
of expiry is over by more than the leeway. Both accept it whatever the time from which it
counts. -/
theorem accepted_until_expiry_from_any_start (time : Nat) :
    (∀ (settings : Service.Settings) keys now reply token source caller,
      settings.leeway.wholeSeconds ≤ time →
      (Service.verify settings keys now time reply token source).outcome = .ok caller →
        caller.claims.LastsUntil (time - settings.leeway.wholeSeconds) ∧
        ∀ start late,
          ProvenBy (Service.verify settings keys now time reply late source).keys late
              caller.header (caller.claims.startingAt start) →
            (Service.verify settings keys now time reply late source).outcome =
              .ok (caller.startingAt start late)) ∧
    ∀ (project : User.Project) now reply token verified,
      User.Project.leeway.wholeSeconds ≤ time →
      (project.verify now time reply token).outcome = .ok verified →
        verified.claims.LastsUntil (time - User.Project.leeway.wholeSeconds) ∧
        ∀ header start late,
          ProvenBy (project.verify now time reply late).project.keys late header
              (verified.claims.startingAt start) →
            (project.verify now time reply late).outcome =
              .ok ⟨verified.uid, verified.claims.startingAt start⟩ := by
  constructor
  · intro settings keys now reply token source caller lenient accepted
    exact ⟨Service.lastsUntil_of_accepted lenient accepted,
      fun start late => Service.accepted_startingAt accepted⟩
  · intro project now reply token verified lenient accepted
    exact ⟨User.Project.lastsUntil_of_accepted lenient accepted,
      fun header start late => User.Project.accepted_startingAt accepted⟩

namespace Sample

/-- A token that counts from the second on in which it expires. -/
def postponed : Draft where
  header := header.members
  claims := issued.claims ++ [("nbf", .nat 4102444800)]
  signature := Bytes.ofNat 128
    60844497680013847276992771172232914632892519890106611495278199186111801414400843602009008774537607637598363388180698859301680460629015638654446753029666674904390596297436075037263587456193113839968389694472640249466319370557926602146200041155310772949761636971685617533726737367927846774669857288614971796664

theorem postponed_legible : postponed.Legible := ⟨by decide, by decide⟩

theorem signedWith_postponed : SignedWith key postponed.token postponed.claims :=
  Draft.signedWith_token postponed_legible (by decide +kernel)

theorem provenBy_postponed :
    ProvenBy ((KeyCache.cold .standard).keyForHeader fetched header.algorithm header.keyId
      Sample.reply).cache postponed.token header postponed.claims :=
  provenBy_of_signedWith postponed_legible rfl signedWith_postponed

/-- What service tokens are expected to say, whoever issues them. -/
def anyone : Service.Settings := ⟨"demo", [], Service.defaultLeeway⟩

/-- A token that both verifiers accept lasts until its time of expiry, and is accepted by both
with a time from which it counts that is far ahead. -/
theorem issued_accepted_from_any_start :
    Claims.LastsUntil 1699999940 issued.claims ∧
      (∃ caller, (Service.verify anyone (.cold .standard) fetched 1700000000 Sample.reply
        postponed.token .authorization).outcome = .ok caller) ∧
      (User.Project.demo.verify fetched 1700000000 Sample.reply postponed.token).outcome =
        .ok ⟨"fuid", postponed.claims⟩ := by
  have accepted : (Service.verify anyone (.cold .standard) fetched 1700000000 Sample.reply
      issued.token .authorization).outcome = .ok (Service.described anyone issued.token
        .authorization header issued.claims "fuid") :=
    Service.verifyDemo_accepts provenBy_issued
      (claimFault?_eq_none_iff.mp (by decide +kernel)) rfl rfl
  have verified : (User.Project.demo.verify fetched 1700000000 Sample.reply issued.token).outcome =
      .ok ⟨"fuid", issued.claims⟩ :=
    User.Project.demo_accepts provenBy_issued
      (claimFault?_eq_none_iff.mp (by decide +kernel)) rfl
  obtain ⟨service, project⟩ := accepted_until_expiry_from_any_start 1700000000
  obtain ⟨lasts, anyStart⟩ := service _ _ _ _ _ _ _ (by decide) accepted
  obtain ⟨_, started⟩ := project _ _ _ _ _ (by decide) verified
  refine ⟨lasts, ⟨_, anyStart (.integer 4102444800) postponed.token ?_⟩,
    started header (.integer 4102444800) postponed.token ?_⟩
  · rw [Service.verify_keys provenBy_postponed.read rfl]
    exact provenBy_postponed
  · rw [User.Project.demo_keys provenBy_postponed.read]
    exact provenBy_postponed

/-- Both verifiers accept a token more than the leeway before the time from which it counts. -/
theorem postponed_accepted :
    Json.lookup? postponed.claims "nbf" = some (.nat 4102444800) ∧
      1700000000 + Service.defaultLeeway.wholeSeconds < 4102444800 ∧
      1700000000 + User.Project.leeway.wholeSeconds < 4102444800 ∧
      (∃ caller, (Service.verify anyone (.cold .standard) fetched 1700000000 Sample.reply
        postponed.token .authorization).outcome = .ok caller ∧
          caller.claims = postponed.claims) ∧
      (User.Project.demo.verify fetched 1700000000 Sample.reply postponed.token).outcome =
        .ok ⟨"fuid", postponed.claims⟩ := by
  have accepted := Service.verifyDemo_accepts provenBy_postponed
    (claimFault?_eq_none_iff.mp (by decide +kernel)) rfl rfl
  have verified := User.Project.demo_accepts provenBy_postponed
    (claimFault?_eq_none_iff.mp (by decide +kernel)) rfl
  exact ⟨rfl, by decide, by decide, ⟨_, accepted, rfl⟩, verified⟩

end Sample

end Token
end Admission
