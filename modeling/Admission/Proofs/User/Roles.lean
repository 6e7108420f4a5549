import Admission.Proofs.Outcome
import Admission.Proofs.Role.Membership
import Admission.User

/-!
# The roles that admit a user

A guard admits a token by its roles: those that its claim grants, or else the role given
by default. Both sides of the comparison are normalised, and names that are blank drop
out of the allowed ones. A guard whose allowed names are all blank therefore admits
every role, like one without any.
-/

namespace Admission

/-- Binding an identity to a directory leaves its roles alone. -/
@[simp] theorem Identity.bindDirectory_roles {identity : Identity} {cells : ProfileCells}
    {directory : Option Directory} {timeout : Duration} :
    (identity.bindDirectory cells directory timeout).1.roles = identity.roles := by
  cases directory <;> rfl

/-- An identity has one of some roles exactly when one of the names is that of a role it has. -/
theorem Identity.hasAnyRole_iff {identity : Identity} {names : List String} :
    identity.hasAnyRole names = true ↔
      ∃ name ∈ names, ∃ role, Role.normalize? name = some role ∧ role ∈ identity.roles := by
  simp only [hasAnyRole, hasRole, List.any_eq_true, Option.any_eq_true, List.contains_iff_mem]

namespace User

variable {settings : Settings} {names allowed : List String} {claims : Token.Claims}
  {role token : String} {verified : Verified} {identity : Identity} {guard : Guard}
  {now : Instant} {time : Nat} {reply : Reply} {drawn : Duration} {verifier : Verifier}
  {directory : Option Directory} {cells : ProfileCells}

/-- A role is granted by the claim for roles, or by default where that claim grants none. -/
def Settings.Grants (settings : Settings) (claims : Token.Claims) (role : String) : Prop :=
  (∃ claim, Json.lookup? claims settings.roleClaim = some claim ∧ role ∈ Role.ofClaim claim) ∨
    ((∀ claim, Json.lookup? claims settings.roleClaim = some claim → Role.ofClaim claim = []) ∧
      ∃ text, settings.defaultRole = some text ∧ Role.normalize? text = some role)

theorem mem_rolesOf : role ∈ rolesOf settings claims ↔ settings.Grants claims role := by
  have byDefault : role ∈ (settings.defaultRole.bind Role.normalize?).toList ↔
      ∃ text, settings.defaultRole = some text ∧ Role.normalize? text = some role := by
    rw [Option.mem_toList, Option.bind_eq_some_iff]
  unfold rolesOf Settings.Grants
  cases Json.lookup? claims settings.roleClaim with
  | none => simp [byDefault]
  | some claim =>
      by_cases empty : Role.ofClaim claim = []
      · simp [empty, byDefault]
      · simp [empty]

theorem rolesOf_ne_nil_iff :
    rolesOf settings claims ≠ [] ↔ ∃ role, settings.Grants claims role := by
  simp only [← mem_rolesOf]
  exact ⟨List.exists_mem_of_ne_nil _, fun ⟨_, has⟩ => List.ne_nil_of_mem has⟩

/-- The identity that a verified token describes, before it is bound to a directory. -/
def described (settings : Settings) (token : String) (verified : Verified) : Identity where
  uid := verified.uid
  email := Token.Claims.text? verified.claims settings.emailClaim
  roles := rolesOf settings verified.claims
  locale := Token.Claims.text? verified.claims settings.localeClaim
  claims := verified.claims
  token := token
  loader := none

/-- A verified token becomes the identity it describes exactly when it names a user and its
roles are some, and among the allowed ones where there are any. -/
theorem identityOf_eq_ok_iff : identityOf settings allowed token verified = .ok identity ↔
    verified.uid ≠ "" ∧ rolesOf settings verified.claims ≠ [] ∧
      (allowed = [] ∨ ∃ role ∈ rolesOf settings verified.claims, role ∈ allowed) ∧
      identity = described settings token verified := by
  have meets : (¬ ((!allowed.isEmpty) = true ∧
        (!(rolesOf settings verified.claims).any allowed.contains) = true)) ↔
      allowed = [] ∨ ∃ role ∈ rolesOf settings verified.claims, role ∈ allowed := by
    by_cases free : allowed = [] <;> simp [free]
  simp only [identityOf, Outcome.ite_error_eq_ok_iff, meets, String.isEmpty_iff,
    List.isEmpty_iff, pure, Except.pure, Except.ok.injEq, ne_eq]
  exact and_congr_right fun _ => and_congr_right fun _ => and_congr_right fun _ => eq_comm

/-- A guard admits a token exactly when its verifier accepts it in time and the token
becomes an identity, which is bound to the directory. -/
theorem Guard.verify_eq_ok_iff :
    (guard.verify now time reply drawn token).outcome = .ok identity ↔
      ∃ verified plain,
        (guard.verifier.verify now time reply drawn token).outcome = .ok verified ∧
        (guard.verifier.verify now time reply drawn token).delay.nanoseconds ≤
          guard.settings.verifyTimeout.nanoseconds ∧
        identityOf guard.settings guard.allowed token verified = .ok plain ∧
        identity =
          (plain.bindDirectory guard.cells guard.directory guard.settings.userTimeout).1 := by
  unfold verify
  generalize guard.verifier.verify now time reply drawn token = answer
  by_cases late : guard.settings.verifyTimeout.nanoseconds < answer.delay.nanoseconds
  · simp [late, Nat.not_le.mpr late]
  · cases accepted : answer.outcome with
    | error fault => simp [late, accepted]
    | ok verified =>
        cases named : identityOf guard.settings guard.allowed token verified with
        | error refusal => simp [late, accepted, named]
        | ok plain => simp [late, accepted, named, Nat.le_of_not_lt late, eq_comm]

/-- What a guard asks of a verifier's answer. An allowed name counts where it is not blank,
and names that are all blank allow every role. -/
structure Admissible (settings : Settings) (names : List String) (answer : Verifier.Answer)
    (verified : Verified) : Prop where
  accepted : answer.outcome = .ok verified
  inTime : answer.delay.nanoseconds ≤ settings.verifyTimeout.nanoseconds
  named : verified.uid ≠ ""
  granted : ∃ role, settings.Grants verified.claims role
  allowed : (∀ name ∈ names, Role.normalize? name = none) ∨
    ∃ name ∈ names, ∃ role, Role.normalize? name = some role ∧
      settings.Grants verified.claims role

/-- Some role is allowed exactly when all names are blank or one of them names it. -/
theorem allowed_iff :
    (Role.ofTexts names = [] ∨
        ∃ role ∈ rolesOf settings claims, role ∈ Role.ofTexts names) ↔
      (∀ name ∈ names, Role.normalize? name = none) ∨
        ∃ name ∈ names, ∃ role, Role.normalize? name = some role ∧ settings.Grants claims role := by
  rw [Role.ofTexts_eq_nil_iff]
  refine or_congr_right ?_
  constructor
  · rintro ⟨role, has, among⟩
    obtain ⟨name, listed, named⟩ := Role.mem_ofTexts.mp among
    exact ⟨name, listed, role, named, mem_rolesOf.mp has⟩
  · rintro ⟨name, listed, role, named, granted⟩
    exact ⟨role, mem_rolesOf.mpr granted, Role.mem_ofTexts.mpr ⟨name, listed, named⟩⟩

/-- A guard that admits some roles, with an answer that it admits. -/
theorem Guard.start_verify_eq_ok_iff :
    ({ Guard.start settings verifier directory names with cells := cells }.verify now time reply
        drawn token).outcome = .ok identity ↔
      ∃ verified, Admissible settings names (verifier.verify now time reply drawn token) verified ∧
        identity = ((described settings token verified).bindDirectory cells directory
          settings.userTimeout).1 := by
  rw [Guard.verify_eq_ok_iff]
  simp only [Guard.start, identityOf_eq_ok_iff, rolesOf_ne_nil_iff, allowed_iff]
  constructor
  · rintro ⟨verified, _, accepted, inTime, ⟨named, granted, allowed, rfl⟩, rfl⟩
    exact ⟨verified, ⟨accepted, inTime, named, granted, allowed⟩, rfl⟩
  · rintro ⟨verified, admissible, rfl⟩
    exact ⟨verified, _, admissible.accepted, admissible.inTime,
      ⟨admissible.named, admissible.granted, admissible.allowed, rfl⟩, rfl⟩

/-- A guard admits a token exactly when its verifier accepted it in time for a named user,
the token has a role, and the names of allowed roles are all blank or one of them names a
role it has. Hence, where a name is not blank, an admitted user has one of the roles. -/
theorem admits_iff_allowed (settings : Settings) (names : List String) (verifier : Verifier)
    (directory : Option Directory) (cells : ProfileCells) (now : Instant) (time : Nat)
    (reply : Reply) (drawn : Duration) (token : String) :
    ((∃ identity, ({ Guard.start settings verifier directory names with
          cells := cells }.verify now time reply drawn token).outcome = .ok identity) ↔
        ∃ verified, Admissible settings names (verifier.verify now time reply drawn token)
          verified) ∧
      ∀ identity, ({ Guard.start settings verifier directory names with
          cells := cells }.verify now time reply drawn token).outcome = .ok identity →
        (∀ role, role ∈ identity.roles ↔ settings.Grants identity.claims role) ∧
        (identity.hasAnyRole names = true ∨ ∀ name ∈ names, Role.normalize? name = none) := by
  refine ⟨?admitted, ?roles⟩
  case admitted =>
    constructor
    · rintro ⟨identity, admitted⟩
      obtain ⟨verified, admissible, _⟩ := Guard.start_verify_eq_ok_iff.mp admitted
      exact ⟨verified, admissible⟩
    · rintro ⟨verified, admissible⟩
      exact ⟨_, Guard.start_verify_eq_ok_iff.mpr ⟨verified, admissible, rfl⟩⟩
  case roles =>
    intro identity admitted
    obtain ⟨verified, admissible, rfl⟩ := Guard.start_verify_eq_ok_iff.mp admitted
    have claims : ((described settings token verified).bindDirectory cells directory
        settings.userTimeout).1.claims = verified.claims := by
      cases directory <;> rfl
    have roles (role : String) : role ∈ ((described settings token verified).bindDirectory cells
        directory settings.userTimeout).1.roles ↔ settings.Grants verified.claims role := by
      rw [Identity.bindDirectory_roles]
      exact mem_rolesOf
    rw [claims]
    refine ⟨roles, ?_⟩
    rcases admissible.allowed with blank | ⟨name, listed, role, named, granted⟩
    · exact .inr blank
    · exact .inl (Identity.hasAnyRole_iff.mpr ⟨name, listed, role, named, (roles role).mpr granted⟩)

namespace Sample

/-- What is verified of a viewer. -/
def viewer : Verified := ⟨"uid-viewer", [("roles", .text "viewer")]⟩

/-- A verifier that knows the token of one viewer. -/
def viewers : Verifier := .table [("viewer", .ok viewer)] ⟨0⟩

theorem asked_valid : Instant.Valid 1700000000 0 := by decide

def asked : Instant := ⟨1700000000, 0, asked_valid⟩

end Sample

/-- A name in other letters admits the viewer, also among names that are blank. -/
theorem cased_name_admits :
    ∃ identity, ((Guard.start .standard Sample.viewers none ["\t", " VIEWER"]).verify
      Sample.asked 1700000000 .unreachable ⟨0⟩ "viewer").outcome = .ok identity := by
  have granted : Settings.standard.Grants Sample.viewer.claims "viewer" :=
    .inl ⟨_, rfl, by simp [show Role.ofClaim (.text "viewer") = ["viewer"] from rfl]⟩
  have admissible : Admissible .standard ["\t", " VIEWER"]
      (Sample.viewers.verify Sample.asked 1700000000 .unreachable ⟨0⟩ "viewer") Sample.viewer :=
    { accepted := rfl
      inTime := by decide
      named := by decide
      granted := ⟨_, granted⟩
      allowed := .inr ⟨" VIEWER", by simp, "viewer", rfl, granted⟩ }
  exact (admits_iff_allowed .standard ["\t", " VIEWER"] Sample.viewers none .none Sample.asked
    1700000000 .unreachable ⟨0⟩ "viewer").1.mpr ⟨_, admissible⟩

/-- Where the allowed names are blank the viewer is admitted, though it has none of their
roles. -/
theorem blank_names_admit :
    ((Guard.start .standard Sample.viewers none [" "]).verify Sample.asked 1700000000
        .unreachable ⟨0⟩ "viewer").outcome = .ok (described .standard "viewer" Sample.viewer) ∧
      (described .standard "viewer" Sample.viewer).hasAnyRole [" "] = false :=
  ⟨rfl, rfl⟩

end User
end Admission
