import Admission.Proofs.KeySet.Rotation

/-!
# Keys while their endpoint is out

While no fetch brings keys, whatever the program does with a cache leaves its snapshot
alone, and a key that the snapshot holds is served, stale or not. A caller waits for it
only where the snapshot is stale, and no longer than a fetch may take.
-/

namespace Admission

/-- The ways in which an endpoint fails to bring keys. -/
inductive Reply.Outage : Reply → Prop where
  /-- The connection fails or is closed. -/
  | closed : Outage .unreachable
  /-- No answer comes until the time for a fetch is over. -/
  | unanswered : Outage .silent
  | refused {status headers body} (other : status ≠ 200) : Outage (.answer status headers body)
  /-- The document cannot be read, or has no usable keys. -/
  | unusable {status headers body}
      (empty : ∀ keys, KeySet.ofDocument? body = some keys → keys.keys = []) :
      Outage (.answer status headers body)
  /-- The body breaks off. -/
  | truncated {status headers} : Outage (.cutShort status headers)

namespace KeyCache

/-- A fetch that is answered at some instant brings no keys. -/
def Fruitless (settings : Settings) (answered : Instant) (reply : Reply) : Prop :=
  ∃ fault, evaluate settings answered reply = .error fault

/-- What becomes of a cache in the hands of the program at one moment. -/
inductive Tended (cache : KeyCache) (now : Instant) (reply : Reply) : KeyCache → Prop where
  | left : Tended cache now reply cache
  /-- A key is looked up. -/
  | looked (keyId : String) : Tended cache now reply (cache.lookup now now keyId reply).2
  /-- A key is looked up, and the caller gives up while a fetch is under way. -/
  | abandoned (keyId : String) : Tended cache now reply (cache.begin now keyId).2.sent
  /-- The keys are refreshed on demand. -/
  | refreshed : Tended cache now reply (cache.refresh now reply).2
  /-- The refresh in the background comes to its end. -/
  | settled : Tended cache now reply (cache.settle now reply)

variable {cache after : KeyCache} {settings : Settings} {observed : Nat} {now answered : Instant}
  {keyId : String} {key : RsaKey} {reply : Reply}

/-- The first step of a lookup starts or claims a refresh, and changes nothing else. -/
theorem begin_eq (cache : KeyCache) (now : Instant) (keyId : String) :
    ∃ background lastForced, (cache.begin now keyId).2 =
      { cache with background := background, lastForced := lastForced } := by
  unfold begin
  split
  · exact ⟨_, _, rfl⟩
  · split
    · exact ⟨_, _, rfl⟩
    · split
      · obtain ⟨background, same⟩ := cache.found_eq _ now
        exact ⟨background, cache.lastForced, same⟩
      · unfold claimForced
        split
        · rename_i claims
          split at claims
          · cases claims
          · cases claims
            exact ⟨_, _, rfl⟩
        · exact ⟨_, _, rfl⟩

/-- A header is refused and nothing is done, or a key that it names is looked up. -/
theorem keyForHeader_cases (cache : KeyCache) (now : Instant) (algorithm : String)
    (named : Option String) (reply : Reply) :
    (∃ fault, cache.keyForHeader now algorithm named reply = ⟨.error fault, cache, false, cache⟩) ∨
      ∃ keyId, cache.keyForHeader now algorithm named reply = cache.key now keyId reply := by
  unfold keyForHeader
  simp only
  split
  · exact .inl ⟨_, rfl⟩
  · split
    · exact .inl ⟨_, rfl⟩
    · rename_i keyId
      split
      · exact .inl ⟨_, rfl⟩
      · exact .inr ⟨keyId, rfl⟩

/-- Looking up the key that a header asks for is one of the things the program does, whether
the caller waits for it or not. -/
theorem tended_keyForHeader (cache : KeyCache) (now : Instant) (algorithm : String)
    (named : Option String) (reply : Reply) :
    Tended cache now reply (cache.keyForHeader now algorithm named reply).cache ∧
      Tended cache now reply (cache.keyForHeader now algorithm named reply).abandoned := by
  rcases cache.keyForHeader_cases now algorithm named reply with ⟨_, refused⟩ | ⟨keyId, looked⟩
  · rw [refused]
    exact ⟨.left, .left⟩
  · have waited : Tended cache now reply (cache.key now keyId reply).cache := by
      rw [key_eq_lookup.2]
      exact .looked keyId
    rw [looked]
    refine ⟨waited, ?_⟩
    unfold key at waited ⊢
    simp only at waited ⊢
    split
    · exact .abandoned keyId
    · split at waited <;> exact waited

namespace Tended

/-- A cache keeps its settings. -/
theorem settings_eq (tended : Tended cache now reply after) : after.settings = cache.settings := by
  cases tended with
  | left => rfl
  | looked keyId =>
      obtain ⟨_, _, begun⟩ := cache.begin_eq now keyId
      rw [lookup, sameForcing_resume.settings, begun]
  | abandoned keyId =>
      obtain ⟨_, _, begun⟩ := cache.begin_eq now keyId
      rw [begun]
      rfl
  | refreshed => exact (sameForcing_refreshAfter ..).settings
  | settled => exact sameForcing_settle.settings

/-- A refresh keeps the snapshot where its fetch would be fruitless. -/
theorem snapshot_refreshAfter (cache : KeyCache) (observed : Nat)
    (fruitless : Fruitless cache.settings now reply) :
    (cache.refreshAfter observed now reply).2.snapshot = cache.snapshot := by
  obtain ⟨fault, fails⟩ := fruitless
  rcases cache.refreshAfter_cases observed now reply with
    ⟨_, _, _, _, refreshed⟩ | ⟨_, _, refreshed⟩ | ⟨_, _, brings, _⟩
  · rw [refreshed]
  · rw [refreshed]
    rfl
  · rw [fails] at brings
    cases brings

/-- A cache keeps its snapshot at a moment whose fetches are fruitless. -/
theorem snapshot_eq (tended : Tended cache now reply after)
    (fruitless : Fruitless cache.settings now reply) : after.snapshot = cache.snapshot := by
  cases tended with
  | left => rfl
  | looked keyId =>
      obtain ⟨fault, fails⟩ := fruitless
      exact (cache.lookup_course now now keyId reply).snapshot_eq_of_fails fails
  | abandoned keyId =>
      obtain ⟨_, _, begun⟩ := cache.begin_eq now keyId
      rw [begun]
      rfl
  | refreshed => exact snapshot_refreshAfter cache _ fruitless
  | settled =>
      unfold settle
      split
      · rfl
      · exact snapshot_refreshAfter cache _ fruitless

end Tended

/-! ## What a held key costs -/

/-- A key that the snapshot holds is waited for exactly where the snapshot is stale. -/
theorem keyForHeader_waits (holds : cache.Holds keyId key) (named : keyId ≠ "") :
    (cache.keyForHeader now "RS256" (some keyId) reply).waits =
      decide (cache.standing now = .stale) := by
  obtain ⟨snapshot, present, known⟩ := holds
  have asked : cache.keyForHeader now "RS256" (some keyId) reply = cache.key now keyId reply := by
    simp [keyForHeader, named]
  rw [asked]
  by_cases stale : snapshot.standing now = .stale
  · have unreplaced : cache.replaced? snapshot.generation now = none := by
      simp [replaced?, present]
    simp [KeyCache.key, KeyCache.begin, present, stale, sends, unreplaced, standing]
  · simp [KeyCache.key, KeyCache.begin, present, stale, known, sends, standing]

end KeyCache
end Admission
