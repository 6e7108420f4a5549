import Admission.Proofs.Application.History
import Admission.Proofs.Bearer
import Admission.Proofs.User.Binding
import Admission.Proofs.User.Roles

/-!
# Users in an outage

A token that keys at hand prove goes on being accepted while the endpoint of the keys is
out. The guard gives its verifier up after a time of its own, though, and where the endpoint
draws a fetch for stale keys out beyond that, they are without effect: by not answering at
all, or by failing late.
-/

namespace Admission

open Token (Claims ProvenBy)

theorem Token.ProvenBy.of_snapshot_eq {keys other : KeyCache} {token : String}
    {header : Header} {claims : Claims} (proven : ProvenBy keys token header claims)
    (same : other.snapshot = keys.snapshot) : ProvenBy other token header claims := by
  obtain ⟨read, algorithm, keyId, key, named, nonempty, holds, signed⟩ := proven
  have held : other.Holds keyId key := by rwa [KeyCache.Holds, same]
  exact ⟨read, algorithm, keyId, key, named, nonempty, held, signed⟩

namespace User

/-- Keys at hand prove a token of a project, which names a user and carries a role. -/
structure Vouched (settings : Settings) (projectId : String) (keys : KeyCache) (time : Nat)
    (token : String) (verified : Verified) : Prop where
  proven : ∃ header, ProvenBy keys token header verified.claims
  meets : verified.claims.Meets (Project.expectation projectId) time
  subject : Claims.text? verified.claims "sub" = some verified.uid
  named : verified.uid ≠ ""
  granted : ∃ role, settings.Grants verified.claims role

namespace Vouched

variable {settings : Settings} {projectId token : String} {keys other : KeyCache} {now : Instant}
  {time : Nat} {reply : Reply} {verified : Verified}
  (vouched : Vouched settings projectId keys time token verified)

include vouched

theorem of_snapshot_eq (same : other.snapshot = keys.snapshot) :
    Vouched settings projectId other time token verified := by
  obtain ⟨header, proven⟩ := vouched.proven
  exact { vouched with proven := ⟨header, proven.of_snapshot_eq same⟩ }

/-- The project accepts the token while fetches are fruitless. -/
theorem accepted (fruitless : KeyCache.Fruitless keys.settings now reply) :
    (Project.verify ⟨projectId, keys⟩ now time reply token).outcome = .ok verified := by
  obtain ⟨⟨after, tended, same⟩, _⟩ :=
    Project.verify_tended ⟨projectId, keys⟩ now time reply token
  obtain ⟨header, proven⟩ := vouched.proven
  rw [Project.verify_eq_ok_iff, same]
  exact ⟨⟨header, proven.of_snapshot_eq (tended.snapshot_eq fruitless)⟩, vouched.meets,
    vouched.subject, vouched.named⟩

/-- Its caller waits exactly where the snapshot is stale. -/
theorem waits : (Project.verify ⟨projectId, keys⟩ now time reply token).waits =
    decide (keys.standing now = .stale) := by
  obtain ⟨header, read, algorithm, keyId, key, named, nonempty, holds, _⟩ := vouched.proven
  simp only [Project.verify, read, algorithm, named]
  exact KeyCache.keyForHeader_waits holds nonempty

end Vouched
end User

namespace Application

/-- What a guard of users makes of a request at a moment. -/
def Moment.outcome (moment : Moment) (guard : User.Guard) (request : Request) :
    Except Refusal Identity :=
  (guard.authenticate moment.now moment.time moment.userReply moment.userDrawn request).outcome

section

variable {settings : Settings} {projectId token : String} {keys : KeyCache} {moment : Moment}
  {verified : User.Verified} {request : Request}

end

namespace Demo

open Token.Sample (key issued header)

/-- The variables of a program for one project, with the seconds for which keys are valid. -/
def environment (lifetime : Option String) : Settings.Lookup := fun name =>
  if name = "FIREBASE_PROJECT_ID" then some "demo"
  else if name = "JWKS_DEFAULT_TTL_SECS" then lifetime
  else none

def routes : Settings.UserRoutes :=
  ⟨"demo", User.Project.keyAddress, "roles", none, .milliseconds 3000⟩

/-- The settings that the variables give. -/
def settings (lifetime : Duration) : Settings where
  host := "0.0.0.0"
  port := 8080
  logFormat := .pretty
  clockSkew := .seconds 300
  nonceLifetime := .seconds 600
  maxBodyBytes := 1048576
  secretTimeout := .milliseconds 2000
  webhookProviders := []
  service := none
  users := some routes
  defaultKeyLifetime := lifetime
  maxKeyLifetime := .seconds 86400
  fetchTimeout := .milliseconds 5000
  forcedInterval := .seconds 30

/-- A request of the user. -/
def asking : Request := ⟨"GET", "/v1/me", [Bearer.field issued.token], .complete []⟩

/-- When the keys are fetched. -/
def fetching : Moment where
  now := Token.Sample.fetched
  arrived := Token.Sample.fetched
  time := 1700000000
  serviceReply := .unreachable
  userReply := Token.Sample.reply
  userDrawn := ⟨0⟩
  freshId := "id"

theorem later_valid : Instant.Valid 1700000900 0 := by decide

/-- Fifteen minutes after that. -/
def later : Instant := ⟨1700000900, 0, later_valid⟩

/-- The moment fifteen minutes later, with what comes of a fetch then. -/
def expired (reply : Reply) (drawn : Duration) : Moment where
  now := later
  arrived := later
  time := 1700000900
  serviceReply := .unreachable
  userReply := reply
  userDrawn := drawn
  freshId := "id"

/-- What is verified of the user. -/
def verified : User.Verified := ⟨"fuid", issued.claims⟩

theorem carried : Bearer.token? asking.headers = some issued.token := by
  have plain : Text.AllPlain issued.token.toList := by
    rw [Token.Draft.token, String.toList_ofList]
    intro symbol member
    simp only [List.mem_append, List.mem_cons] at member
    rcases member with (member | rfl | member) | rfl | member
    · exact Base64.allPlain_encode _ symbol member
    · decide
    · exact Base64.allPlain_encode _ symbol member
    · decide
    · exact Base64.allPlain_encode _ symbol member
  exact Bearer.token?_of_plain plain (by simp [Token.Draft.token]) []

theorem read : Token.Header.ofToken issued.token = .ok header :=
  Token.Draft.header_ofToken_token Token.Sample.issued_legible Token.Sample.ofMembers?_header

variable {lifetime : Duration} {window : Freshness.Window} {start : Application}

/-- The keys after the first request of the user. -/
theorem stocked (granted : Freshness.responseWindow? [] Token.Sample.fetched lifetime
      (.seconds 86400) = some window)
    (assembled : ofSettings (settings lifetime) [] = .ok start) :
    ∃ keys, GuardsUsers (settings lifetime) "demo" keys (start.run [.request fetching asking]) ∧
      keys.settings = (settings lifetime).keys ∧
      keys.snapshot = some ⟨KeySet.listed [("key-a", key)], window, 1⟩ := by
  have configured : (settings lifetime).users = some routes := rfl
  have guards := guardsUsers_ofSettings configured assembled
  have prompt : (KeyCache.waiting (KeyCache.cold (settings lifetime).keys).settings
      fetching.userDrawn fetching.userReply).nanoseconds ≤
        (settings lifetime).admission.verifyTimeout.nanoseconds := Nat.zero_le _
  have after := guards.respond_user fetching asking rfl
  rw [authenticate_guardOver_of_prompt prompt carried read] at after
  have tended := (KeyCache.tended_keyForHeader (.cold (settings lifetime).keys) fetching.now
    header.algorithm header.keyId fetching.userReply).1
  refine ⟨_, after, tended.settings_eq, ?_⟩
  have brings : KeyCache.evaluate (settings lifetime).keys fetching.now fetching.userReply =
      .ok (KeySet.listed [("key-a", key)], window) :=
    KeyCache.evaluate_publishing granted (by simp) (by simp)
  have due : (KeyCache.cold (settings lifetime).keys).Due fetching.now := KeyCache.due_of_none rfl
  have known : (KeySet.listed [("key-a", key)]).find? "key-a" = some key := rfl
  have asked : (KeyCache.cold (settings lifetime).keys).keyForHeader fetching.now header.algorithm
      header.keyId fetching.userReply =
        (KeyCache.cold (settings lifetime).keys).key fetching.now "key-a" fetching.userReply := by
    simp [KeyCache.keyForHeader, header]
  rw [asked, KeyCache.key_eq_lookup.2, KeyCache.lookup_of_brings due brings known,
    KeyCache.found_snapshot]
  rfl

/-- Keys with this snapshot prove the token of the user. -/
theorem vouched {keys : KeyCache}
    (snapshot : keys.snapshot = some ⟨KeySet.listed [("key-a", key)], window, 1⟩) :
    User.Vouched (settings lifetime).admission "demo" keys 1700000900 issued.token verified where
  proven := ⟨header, read, rfl, "key-a", key, rfl, by simp, ⟨_, snapshot, rfl⟩,
    Token.Sample.signedWith_issued⟩
  meets := Token.claimFault?_eq_none_iff.mp (by decide +kernel)
  subject := rfl
  named := by decide
  granted := ⟨"admin", .inl ⟨_, rfl, by decide +kernel⟩⟩

end Demo

open Demo

end Application
end Admission
