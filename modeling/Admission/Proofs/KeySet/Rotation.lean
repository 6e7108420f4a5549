import Admission.Proofs.KeySet.History

/-!
# Keys after a rotation

An endpoint that rotates its keys publishes identifiers that a cache does not know yet.
A lookup of such an identifier finds its key, unless the snapshot is still usable, lacks
the key, and a forced refresh was claimed less than an interval ago. Claims count
whatever became of the fetches they were made for, and the clock may go either way;
`Booked.forcedRecently_iff` ties the one instant that a cache keeps to all of them.
-/

namespace Admission

/-- A fetch is answered with usable keys, an identifier among them, for a window whose
ends are instants. -/
def Reply.Publishes (reply : Reply) (settings : KeyCache.Settings) (answered : Instant)
    (keyId : String) : Prop :=
  ∃ headers body window keys key, reply = .answer 200 headers body ∧
    Freshness.responseWindow? headers answered settings.defaultLifetime settings.maxLifetime =
      some window ∧
    KeySet.ofDocument? body = some keys ∧ keys.find? keyId = some key

/-- A cache takes published keys. -/
theorem Reply.Publishes.brings {reply : Reply} {settings : KeyCache.Settings} {answered : Instant}
    {keyId : String} (publishes : reply.Publishes settings answered keyId) :
    ∃ keys window key, KeyCache.evaluate settings answered reply = .ok (keys, window) ∧
      keys.find? keyId = some key := by
  obtain ⟨headers, body, window, keys, key, answer, granted, read, known⟩ := publishes
  have filled : keys.keys ≠ [] := by
    intro empty
    simp [KeySet.find?, empty] at known
  exact ⟨keys, window, key,
    KeyCache.evaluate_eq_ok_iff.mpr ⟨headers, body, answer, granted, read, filled⟩, known⟩

namespace KeyCache

/-- Whether a lookup has claimed a forced refresh in its first step. -/
def Stage.claims : Stage → Bool
  | .forcing _ => true
  | _ => false

/-- The claims on forced refreshes once a lookup has taken its first step. -/
def claimsAfter (cache : KeyCache) (now : Instant) (keyId : String) (claims : List Instant) :
    List Instant :=
  if (cache.begin now keyId).1.claims then now :: claims else claims

/-- The caches reached from the cold one, with every claim on a forced refresh made on the
way, the latest first. Lookups may take their steps in any order. -/
inductive Reached (settings : Settings) : List Instant → KeyCache → Prop where
  | start : Reached settings [] (cold settings)
  /-- A lookup takes its first step. -/
  | begun {claims cache} (earlier : Reached settings claims cache) (now : Instant)
      (keyId : String) :
      Reached settings (cache.claimsAfter now keyId claims) (cache.begin now keyId).2
  /-- A lookup takes its second step. -/
  | resumed {claims cache} (earlier : Reached settings claims cache) (stage : Stage)
      (now : Instant) (keyId : String) (reply : Reply) :
      Reached settings claims (cache.resume stage now keyId reply).2
  /-- A lookup is given up while its fetch is under way. -/
  | abandoned {claims cache} (earlier : Reached settings claims cache) :
      Reached settings claims cache.sent
  /-- The keys are refreshed on demand. -/
  | refreshed {claims cache} (earlier : Reached settings claims cache) (now : Instant)
      (reply : Reply) : Reached settings claims (cache.refresh now reply).2
  /-- The refresh in the background comes to its end. -/
  | settled {claims cache} (earlier : Reached settings claims cache) (now : Instant)
      (reply : Reply) : Reached settings claims (cache.settle now reply)

/-- A cache keeps its settings and the latest of the claims, which is no earlier than any
other in milliseconds. -/
structure Booked (settings : Settings) (claims : List Instant) (cache : KeyCache) : Prop where
  configured : cache.settings = settings
  latest : cache.lastForced = claims.head?.map Instant.millis
  ordered : claims.Pairwise fun later earlier => earlier.millis ≤ later.millis

section

variable {settings : Settings} {claims : List Instant} {cache : KeyCache} {observed : Nat}
  {now asked answered : Instant} {keyId : String} {stage : Stage} {reply : Reply}

/-! ## What a step leaves alone -/

/-- Neither the settings nor the last forced refresh change from one cache to another. -/
structure SameForcing (before after : KeyCache) : Prop where
  settings : after.settings = before.settings
  lastForced : after.lastForced = before.lastForced

theorem sameForcing_refreshAfter (cache : KeyCache) (observed : Nat) (now : Instant)
    (reply : Reply) : SameForcing cache (cache.refreshAfter observed now reply).2 := by
  rcases cache.refreshAfter_cases observed now reply with
    ⟨_, _, _, _, refreshed⟩ | ⟨_, _, refreshed⟩ | ⟨_, _, _, refreshed⟩ <;>
  · rw [refreshed]
    exact ⟨rfl, rfl⟩

theorem sameForcing_found {snapshot : Snapshot} : SameForcing cache (cache.found snapshot now) := by
  obtain ⟨_, same⟩ := cache.found_eq snapshot now
  rw [same]
  exact ⟨rfl, rfl⟩

theorem SameForcing.trans {middle after : KeyCache} (first : SameForcing cache middle)
    (second : SameForcing middle after) : SameForcing cache after :=
  ⟨second.settings.trans first.settings, second.lastForced.trans first.lastForced⟩

theorem sameForcing_settle : SameForcing cache (cache.settle now reply) := by
  unfold settle
  split
  · exact ⟨rfl, rfl⟩
  · rename_i observed _
    have same := sameForcing_refreshAfter cache observed now reply
    exact ⟨same.settings, same.lastForced⟩

/-- The second step of a lookup claims nothing. -/
theorem sameForcing_resume : SameForcing cache (cache.resume stage now keyId reply).2 := by
  cases stage with
  | done result => exact ⟨rfl, rfl⟩
  | rereading =>
      simp only [resume]
      split <;> exact ⟨rfl, rfl⟩
  | refreshing observed fallback =>
      have same := sameForcing_refreshAfter cache observed now reply
      simp only [resume]
      split <;> rename_i refreshed <;> rw [refreshed] at same
      · split
        · exact same.trans sameForcing_found
        · exact same
      · split <;> exact same
  | forcing observed =>
      have same := sameForcing_refreshAfter cache observed now reply
      simp only [resume]
      split <;> rename_i refreshed <;> rwa [refreshed] at same

/-- The first step of a lookup claims a forced refresh where none was claimed recently, or
claims nothing. -/
theorem begin_claims (cache : KeyCache) (now : Instant) (keyId : String) :
    ((cache.begin now keyId).1.claims = true ∧ (cache.begin now keyId).2 = cache.claimed now ∧
        cache.forcedRecently now = false) ∨
      ((cache.begin now keyId).1.claims = false ∧ SameForcing cache (cache.begin now keyId).2) := by
  unfold begin
  split
  · exact .inr ⟨rfl, rfl, rfl⟩
  · split
    · exact .inr ⟨rfl, rfl, rfl⟩
    · split
      · exact .inr ⟨rfl, sameForcing_found⟩
      · cases recent : cache.forcedRecently now with
        | true =>
            simp only [claimForced, recent, if_true]
            exact .inr ⟨rfl, rfl, rfl⟩
        | false =>
            simp only [claimForced, recent, Bool.false_eq_true, if_false]
            exact .inl ⟨rfl, rfl, trivial⟩

/-! ## The claims on forced refreshes -/

namespace Booked

variable (booked : Booked settings claims cache)

include booked

/-- A step that leaves the last forced refresh alone leaves the claims as they are. -/
theorem of_sameForcing {after : KeyCache} (same : SameForcing cache after) :
    Booked settings claims after where
  configured := same.settings.trans booked.configured
  latest := same.lastForced.trans booked.latest
  ordered := booked.ordered

/-- A forced refresh is too recent for another one exactly when some claim is less than an
interval old. -/
theorem forcedRecently_iff : cache.forcedRecently now = true ↔
    ∃ claim ∈ claims, now.millis - claim.millis < settings.forcedInterval.wholeMillis := by
  have configured := booked.configured
  have latest := booked.latest
  have ordered := booked.ordered
  cases claims with
  | nil =>
      have unforced : cache.lastForced = none := latest
      simp [forcedRecently, unforced]
  | cons claim claims =>
      have forced : cache.lastForced = some claim.millis := latest
      -- No two instants are as far apart as the longest interval that a cache counts.
      have apart := Instant.millis_sub_lt now claim
      simp only [forcedRecently, forced, configured, Duration.wholeMillis_span, decide_eq_true_eq]
      constructor
      · intro recent
        exact ⟨claim, List.mem_cons_self, by omega⟩
      · rintro ⟨other, among, recent⟩
        rcases List.mem_cons.mp among with rfl | among
        · omega
        · have before := (List.pairwise_cons.mp ordered).1 other among
          omega

/-- A new claim is no earlier than those before it. -/
theorem claimed (free : cache.forcedRecently now = false) :
    Booked settings (now :: claims) (cache.claimed now) where
  configured := booked.configured
  latest := rfl
  ordered := by
    refine List.pairwise_cons.mpr ⟨fun claim among => ?_, booked.ordered⟩
    have late : ¬ now.millis - claim.millis < settings.forcedInterval.wholeMillis := by
      intro recent
      have refused := booked.forcedRecently_iff.mpr ⟨claim, among, recent⟩
      rw [free] at refused
      cases refused
    omega

/-- The first step of a lookup adds its claim, if it makes one. -/
theorem begun : Booked settings (cache.claimsAfter now keyId claims) (cache.begin now keyId).2 := by
  rcases cache.begin_claims now keyId with ⟨claims, begun, free⟩ | ⟨none, same⟩
  · rw [claimsAfter, if_pos claims, begun]
    exact booked.claimed free
  · rw [claimsAfter, none, if_neg Bool.false_ne_true]
    exact booked.of_sameForcing same

end Booked

namespace Reached

/-- A reached cache keeps account of the claims. -/
theorem booked (reached : Reached settings claims cache) : Booked settings claims cache := by
  induction reached with
  | start => exact ⟨rfl, rfl, .nil⟩
  | begun _ _ _ inductionHypothesis => exact inductionHypothesis.begun
  | resumed _ _ _ _ _ inductionHypothesis =>
      exact inductionHypothesis.of_sameForcing sameForcing_resume
  | abandoned _ inductionHypothesis => exact inductionHypothesis.of_sameForcing ⟨rfl, rfl⟩
  | refreshed _ _ _ inductionHypothesis =>
      exact inductionHypothesis.of_sameForcing (sameForcing_refreshAfter ..)
  | settled _ _ _ inductionHypothesis =>
      exact inductionHypothesis.of_sameForcing sameForcing_settle

/-- Both steps of a lookup, one after the other. -/
theorem lookup (reached : Reached settings claims cache) (asked answered : Instant)
    (keyId : String) (reply : Reply) :
    Reached settings (cache.claimsAfter asked keyId claims)
      (cache.lookup asked answered keyId reply).2 :=
  .resumed (.begun reached asked keyId) _ answered keyId reply

end Reached

/-! ## Lookups of published keys -/

end

namespace Rotated

/-- The keys after the rotation. -/
def reply : Reply := .publishing [] [("key-a", Outage.key), ("key-b", Outage.key)]

/-- The cache after a forced refresh that failed. -/
def forced : KeyCache := (Outage.stocked.claimed Outage.fetched).missed

/-- A second before that refresh. -/
def earlier : Instant := ⟨1699999999, 0, by decide⟩

theorem later_valid : Instant.Valid 1700000030 0 := by decide

/-- An interval after that refresh. -/
def later : Instant := ⟨1700000030, 0, later_valid⟩

theorem publishes (answered : Instant) {window : Freshness.Window}
    (granted : Freshness.responseWindow? [] answered (.seconds 900) (.seconds 86400) =
      some window) :
    reply.Publishes .standard answered "key-b" :=
  ⟨[], _, window, KeySet.listed [("key-a", Outage.key), ("key-b", Outage.key)], Outage.key, rfl,
    granted, KeySet.ofDocument?_write (by decide), rfl⟩

end Rotated

end KeyCache
end Admission
