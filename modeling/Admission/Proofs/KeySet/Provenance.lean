import Admission.Proofs.KeySet.Coalescing
import Admission.Proofs.KeySet.Listing
import Admission.Proofs.Service.Acceptance
import Admission.Proofs.User.Binding

/-!
# Where keys come from

Whatever is done to a cache, and in whatever order lookups take their steps, a key that one of
them is answered with was published by an entry of a document that the cache received. So no
other key ever verifies a token.
-/

namespace Admission

namespace KeyCache

variable {cache : KeyCache} {replies : List Reply} {keyId : String} {key : RsaKey}
  {now : Instant} {reply : Reply} {stage : Stage} {snapshot : Snapshot} {action : Action}
  {actions : List Action}

/-- One of the replies is a successful answer whose document publishes a key. -/
def Attested (replies : List Reply) (keyId : String) (key : RsaKey) : Prop :=
  ∃ headers document entries, Reply.answer 200 headers document ∈ replies ∧
    KeySet.Lists document entries ∧ KeySet.Latest entries keyId key

/-- All that a cache holds is attested. -/
def Grounded (replies : List Reply) (cache : KeyCache) : Prop :=
  ∀ keyId key, cache.Holds keyId key → Attested replies keyId key

/-- What an action receives from the endpoint. -/
def Action.received : Action → List Reply
  | .resume _ _ _ reply | .refresh _ reply | .settle _ reply => [reply]
  | .begin _ _ | .abandon => []

/-- The key that a stage has at hand before it fetches. -/
def Stage.atHand? (keyId : String) : Stage → Option RsaKey
  | .done result => result.toOption
  | .refreshing _ fallback => fallback.bind fun snapshot => snapshot.keys.find? keyId
  | .forcing _ | .rereading => none

/-! ## Caches -/

theorem grounded_cold (settings : Settings) : Grounded replies (cold settings) := by
  rintro keyId key ⟨_, present, _⟩
  cases present

/-- What a reply brings is attested by it. -/
theorem attested_of_brings {settings : Settings} {keys : KeySet} {window : Freshness.Window}
    (brings : evaluate settings now reply = .ok (keys, window)) (among : reply ∈ replies)
    (known : keys.find? keyId = some key) : Attested replies keyId key := by
  obtain ⟨headers, document, rfl, _, read, _⟩ := evaluate_eq_ok_iff.mp brings
  obtain ⟨entries, lists, rfl⟩ := KeySet.ofDocument?_eq_some_iff.mp read
  exact ⟨headers, document, entries, among, lists, KeySet.find?_ofEntries_iff.mp known⟩

theorem Grounded.of_snapshot_eq {other : KeyCache} (grounded : Grounded replies cache)
    (same : other.snapshot = cache.snapshot) : Grounded replies other := by
  rintro keyId key ⟨snapshot, present, known⟩
  exact grounded keyId key ⟨snapshot, same ▸ present, known⟩

theorem Grounded.refreshAfter (grounded : Grounded replies cache) (among : reply ∈ replies)
    (observed : Nat) : Grounded replies (cache.refreshAfter observed now reply).2 := by
  rcases cache.refreshAfter_cases observed now reply with
    ⟨_, _, _, _, refreshed⟩ | ⟨_, _, refreshed⟩ | ⟨keys, window, brings, refreshed⟩
  · rwa [refreshed]
  · rw [refreshed]
    exact grounded.of_snapshot_eq rfl
  · rw [refreshed]
    intro keyId key holds
    exact attested_of_brings brings among (holds_installed.mp holds)

theorem Grounded.begin (grounded : Grounded replies cache) :
    Grounded replies (cache.begin now keyId).2 :=
  grounded.of_snapshot_eq (cache.begin_observes now keyId).1.snapshot

theorem Grounded.resume (grounded : Grounded replies cache) (among : reply ∈ replies) :
    Grounded replies (cache.resume stage now keyId reply).2 := by
  refine Grounded.of_snapshot_eq ?_ (cache.resume_refreshes stage now keyId reply).snapshot
  cases stage.observed? with
  | none => exact grounded
  | some observed => exact grounded.refreshAfter among observed

/-- An action keeps a cache grounded in replies that its own is among. -/
theorem Grounded.act (grounded : Grounded replies cache) (among : action.received ⊆ replies) :
    Grounded replies (cache.act action) := by
  cases action with
  | begin now keyId => exact grounded.begin
  | resume stage now keyId reply => exact grounded.resume (among List.mem_cons_self)
  | abandon => exact grounded.of_snapshot_eq rfl
  | refresh now reply => exact grounded.refreshAfter (among List.mem_cons_self) _
  | settle now reply =>
      simp only [KeyCache.act, settle]
      split
      · exact grounded
      · exact (grounded.refreshAfter (among List.mem_cons_self) _).of_snapshot_eq rfl

/-- Actions keep a cache grounded in replies that theirs are among. -/
theorem Grounded.performed (grounded : Grounded replies cache)
    (among : actions.flatMap Action.received ⊆ replies) :
    Grounded replies (cache.performed actions) := by
  induction actions generalizing cache with
  | nil => exact grounded
  | cons action actions inductionHypothesis =>
      rw [List.flatMap_cons] at among
      exact inductionHypothesis (grounded.act (List.append_subset.mp among).1)
        (List.append_subset.mp among).2

/-! ## Lookups -/

/-- A refresh that gives a snapshot leaves the cache with it. -/
theorem snapshot_of_refreshAfter {observed : Nat} {after : KeyCache}
    (refreshed : cache.refreshAfter observed now reply = (.ok snapshot, after)) :
    after.snapshot = some snapshot := by
  rcases cache.refreshAfter_cases observed now reply with
    ⟨_, present, _, _, used⟩ | ⟨_, _, missed⟩ | ⟨_, _, _, installed⟩
  · rw [used] at refreshed
    cases refreshed
    exact present
  · rw [missed] at refreshed
    cases refreshed
  · rw [installed] at refreshed
    cases refreshed
    rfl

/-- What a lookup has at hand after its first step the cache held. -/
theorem begin_atHand (atHand : (cache.begin now keyId).1.atHand? keyId = some key) :
    cache.Holds keyId key := by
  unfold begin at atHand
  split at atHand
  · cases atHand
  · rename_i snapshot present
    split at atHand
    · exact ⟨snapshot, present, atHand⟩
    · split at atHand
      · rename_i known
        cases atHand
        exact ⟨snapshot, present, known⟩
      · split at atHand <;> cases atHand

/-- A lookup is answered with the key at hand or with one that the cache holds then. -/
theorem resume_eq_ok (answered : (cache.resume stage now keyId reply).1 = .ok key) :
    stage.atHand? keyId = some key ∨ (cache.resume stage now keyId reply).2.Holds keyId key := by
  cases stage with
  | done result =>
      simp only [resume] at answered
      exact .inl (by rw [Stage.atHand?, answered]; rfl)
  | rereading =>
      simp only [resume] at answered ⊢
      split at answered
      · rename_i snapshot present
        exact .inr ⟨snapshot, present, keyIn_eq_ok_iff.mp answered⟩
      · cases answered
  | refreshing observed fallback =>
      simp only [resume] at answered ⊢
      split at answered
      · rename_i snapshot after refreshed
        split at answered
        · rename_i found known
          cases answered
          exact .inr (holds_found.mpr ⟨snapshot, snapshot_of_refreshAfter refreshed, known⟩)
        · cases answered
      · split at answered
        · rename_i found known
          cases answered
          exact .inl known
        · cases answered
  | forcing observed =>
      simp only [resume] at answered ⊢
      split at answered
      · rename_i snapshot after refreshed
        exact .inr ⟨snapshot, snapshot_of_refreshAfter refreshed, keyIn_eq_ok_iff.mp answered⟩
      · cases answered

/-- What a lookup is answered with whose two steps have other actions between them. -/
def lookupAmid (cache : KeyCache) (asked : Instant) (keyId : String) (between : List Action)
    (answered : Instant) (reply : Reply) : Except KeyFault RsaKey :=
  let (stage, begun) := cache.begin asked keyId
  ((begun.performed between).resume stage answered keyId reply).1

/-- In replies that those of the actions and its own are among, every answer of a lookup is
attested. -/
theorem Grounded.lookupAmid {asked answered : Instant} {between : List Action}
    (grounded : Grounded replies cache)
    (among : between.flatMap Action.received ++ [reply] ⊆ replies)
    (found : cache.lookupAmid asked keyId between answered reply = .ok key) :
    Attested replies keyId key := by
  obtain ⟨betweenAmong, replyAmong⟩ := List.append_subset.mp among
  rcases resume_eq_ok found with atHand | holds
  · exact grounded keyId key (begin_atHand atHand)
  · exact (grounded.begin.performed betweenAmong).resume (replyAmong List.mem_cons_self) keyId key
      holds

/-- The lookup for the header of a token keeps a cache grounded. -/
theorem Grounded.keyForHeader {algorithm : String} {named : Option String}
    (grounded : Grounded replies cache) (among : reply ∈ replies) :
    Grounded replies (cache.keyForHeader now algorithm named reply).cache := by
  unfold KeyCache.keyForHeader
  split
  · exact grounded
  · split
    · exact grounded
    · split
      · exact grounded
      · rw [key_eq_lookup.2]
        exact grounded.begin.resume among

end KeyCache

open KeyCache (Action Attested Grounded)

variable {cache : KeyCache} {replies : List Reply} {now : Instant} {time : Nat} {reply : Reply}
  {token : String}

/-- A token is signed with a key that a reply attests for the identifier in its header. -/
def Token.AttestedBy (replies : List Reply) (token : String) : Prop :=
  ∃ header keyId key claims, Token.Header.ofToken token = .ok header ∧
    header.keyId = some keyId ∧ Attested replies keyId key ∧ Token.SignedWith key token claims

theorem Token.ProvenBy.attestedBy {header : Token.Header} {claims : Token.Claims}
    (proven : Token.ProvenBy cache token header claims) (grounded : Grounded replies cache) :
    Token.AttestedBy replies token := by
  obtain ⟨keyId, key, named, _, holds, signed⟩ := proven.signed
  exact ⟨header, keyId, key, claims, proven.read, named, grounded keyId key holds, signed⟩

theorem Service.attestedBy_of_verify {settings : Service.Settings} {source : Service.TokenSource}
    {caller : Service.Caller} (grounded : Grounded replies cache) (among : reply ∈ replies)
    (accepted : (Service.verify settings cache now time reply token source).outcome = .ok caller) :
    Token.AttestedBy replies token := by
  obtain ⟨header, claims, proven, _⟩ := Service.verify_eq_ok_iff.mp accepted
  rw [Service.verify_keys proven.read proven.algorithm] at proven
  exact proven.attestedBy (grounded.keyForHeader among)

theorem User.Project.attestedBy_of_verify {id : String} {verified : User.Verified}
    (grounded : Grounded replies cache) (among : reply ∈ replies)
    (accepted : ((⟨id, cache⟩ : User.Project).verify now time reply token).outcome = .ok verified) :
    Token.AttestedBy replies token := by
  obtain ⟨⟨header, proven⟩, _⟩ := User.Project.verify_eq_ok_iff.mp accepted
  have keys : ((⟨id, cache⟩ : User.Project).verify now time reply token).project.keys =
      (cache.keyForHeader now header.algorithm header.keyId reply).cache := by
    simp only [User.Project.verify, proven.read]
  rw [keys] at proven
  exact proven.attestedBy (grounded.keyForHeader among)

/-- A document that lists entries is read as a set that holds, of each identifier, the key of
the last entry that publishes one for it, and a document with other entries that publish none
put in or left out is read as the same set. Whatever is done to a cache that was cold, what its
lookups are answered with, and what the tokens that it makes accepted are signed with, are keys
that a document it received publishes in this way. -/
theorem published_keys_alone_verify (settings : KeyCache.Settings) (actions : List Action) :
    (∀ document entries, KeySet.Lists document entries →
      ∃ set, KeySet.ofDocument? document = some set ∧
        (∀ keyId key, set.find? keyId = some key ↔ KeySet.Latest entries keyId key) ∧
        ∀ other otherEntries, KeySet.Lists other otherEntries →
          KeySet.Padding entries otherEntries ∨ KeySet.Padding otherEntries entries →
            KeySet.ofDocument? other = some set) ∧
      (∀ asked keyId between answered reply key,
        ((KeyCache.cold settings).performed actions).lookupAmid asked keyId between answered
            reply = .ok key →
          Attested (actions.flatMap Action.received ++
            (between.flatMap Action.received ++ [reply])) keyId key) ∧
      (∀ service now time reply token source caller,
        (Service.verify service ((KeyCache.cold settings).performed actions) now time reply token
            source).outcome = .ok caller →
          Token.AttestedBy (actions.flatMap Action.received ++ [reply]) token) ∧
      ∀ id now time reply token verified,
        ((⟨id, (KeyCache.cold settings).performed actions⟩ : User.Project).verify now time reply
            token).outcome = .ok verified →
          Token.AttestedBy (actions.flatMap Action.received ++ [reply]) token := by
  have grounded (further : List Reply) :
      Grounded (actions.flatMap Action.received ++ further)
        ((KeyCache.cold settings).performed actions) :=
    (KeyCache.grounded_cold settings).performed (List.subset_append_left _ _)
  refine ⟨?document, ?lookup, ?service, ?user⟩
  case document =>
    intro document entries lists
    refine ⟨KeySet.ofEntries entries, KeySet.ofDocument?_eq_some_iff.mpr ⟨entries, lists, rfl⟩,
      fun keyId key => KeySet.find?_ofEntries_iff, ?_⟩
    intro other otherEntries otherLists padding
    refine KeySet.ofDocument?_eq_some_iff.mpr ⟨otherEntries, otherLists, ?_⟩
    rcases padding with padding | padding
    · exact (KeySet.ofEntries_eq_of_padding padding).symm
    · exact KeySet.ofEntries_eq_of_padding padding
  case lookup =>
    intro asked keyId between answered reply key found
    exact (grounded _).lookupAmid (List.subset_append_right _ _) found
  case service =>
    intro service now time reply token source caller accepted
    exact Service.attestedBy_of_verify (grounded _) (by simp) accepted
  case user =>
    intro id now time reply token verified accepted
    exact User.Project.attestedBy_of_verify (grounded _) (by simp) accepted

namespace KeySet.Mixed

open KeyCache (Outage.key)

/-- The members that publish a key. -/
def members : List (String × Json) := Jwk.publishedMembers "key-a" Outage.key

/-- The entry that publishes the key. -/
def entry : Json := .object members

/-- An entry of the key for encryption. -/
def encryption : Json :=
  .object ((members.filter fun member => member.1 != "use") ++ [("use", .text "enc")])

/-- An entry of the key for another algorithm. -/
def foreign : Json :=
  .object ((members.filter fun member => member.1 != "alg") ++ [("alg", .text "RS512")])

/-- The entry among others that publish no key. -/
def padded : List Json := [.null, foreign, entry, .text "key-a", encryption]

/-- The document that lists entries. -/
def written (entries : List Json) : Bytes :=
  Bytes.ofText (Json.write (.object [("keys", .array entries)]))

theorem entry_publishes : Jwk.Publishes entry "key-a" Outage.key :=
  Jwk.usable?_eq_some_iff.mp (Jwk.usable?_published (by simp))

theorem silent (value : Json) (among : value ∈ [.null, foreign, .text "key-a", encryption]) :
    ∀ keyId key, ¬ Jwk.Publishes value keyId key := by
  rw [← Jwk.usable?_eq_none_iff]
  have all : ∀ value ∈ [.null, foreign, .text "key-a", encryption],
      (Jwk.usable? value).isNone = true := by
    decide +kernel
  exact Option.isNone_iff_eq_none.mp (all value among)

theorem padding : Padding [entry] padded :=
  .put (silent _ (by simp)) (.put (silent _ (by simp)) (.kept entry
    (.put (silent _ (by simp)) (.put (silent _ (by simp)) .nil))))

end KeySet.Mixed

open KeySet.Mixed in
/-- A key is found between entries that publish none, one of them under its identifier, as in
the document without these; and it takes an attested key to have a token accepted. -/
theorem mixed_document_publishes :
    KeySet.Lists (written padded) padded ∧ KeySet.Lists (written [entry]) [entry] ∧
      KeySet.ofDocument? (written padded) = KeySet.ofDocument? (written [entry]) ∧
      (∃ set, KeySet.ofDocument? (written padded) = some set ∧
        set.find? "key-a" = some KeyCache.Outage.key) ∧
      Token.AttestedBy [Token.Sample.reply] Token.Sample.issued.token := by
  obtain ⟨documents, _, _, users⟩ := published_keys_alone_verify .standard []
  have lists : KeySet.Lists (written padded) padded :=
    KeySet.lists_write (by decide +kernel) (by simp)
  have alone : KeySet.Lists (written [entry]) [entry] :=
    KeySet.lists_write (by decide +kernel) (by simp)
  obtain ⟨set, read, finds, same⟩ := documents _ _ lists
  have latest : KeySet.Latest padded "key-a" KeyCache.Outage.key := by
    refine ⟨[.null, foreign], entry, [.text "key-a", encryption], rfl, entry_publishes, ?_⟩
    intro other among replacement
    exact silent other (by simp_all) "key-a" replacement
  have meets : Token.Claims.Meets (User.Project.expectation "demo") 1700000000
      Token.Sample.issued.claims :=
    Token.claimFault?_eq_none_iff.mp (by decide +kernel)
  have accepted := User.Project.demo_accepts Token.Sample.provenBy_issued meets rfl
  exact ⟨lists, alone, read.trans (same _ _ alone (.inr padding)).symm,
    ⟨set, read, (finds "key-a" KeyCache.Outage.key).mpr latest⟩,
    users "demo" _ _ _ _ _ accepted⟩

end Admission
