import Admission.KeySet.Cache

/-!
# Several lookups

Lookups that run together take their first steps in order before any fetch
comes back; those that wait then take their second steps first come, first
served. Lookups that run one after the other share a background refresh, which
gets its turn once one of them has to wait.
-/

namespace Admission.KeyCache

/-- The first steps of lookups, in order. -/
def beginAll (cache : KeyCache) (now : Instant) : List String → List (String × Stage) × KeyCache
  | [] => ([], cache)
  | keyId :: rest =>
      let (stage, cache) := cache.begin now keyId
      let (stages, cache) := cache.beginAll now rest
      ((keyId, stage) :: stages, cache)

/-- The second steps of lookups, in order. -/
def resumeAll (cache : KeyCache) (now : Instant) (reply : Reply) :
    List (String × Stage) → List (Except KeyFault RsaKey) × KeyCache
  | [] => ([], cache)
  | (keyId, stage) :: rest =>
      let (result, cache) := cache.resume stage now keyId reply
      let (results, cache) := cache.resumeAll now reply rest
      (result :: results, cache)

/-- Lookups that run together. -/
def keysTogether (cache : KeyCache) (now : Instant) (keyIds : List String) (reply : Reply) :
    List (Except KeyFault RsaKey) × KeyCache :=
  let (stages, cache) := cache.beginAll now keyIds
  cache.resumeAll now reply stages

/-- Whether a stage waits for the end of a running refresh. -/
def Stage.waits : Stage → Bool
  | .done _ => false
  | _ => true

/-- Lookups that run one after the other. A background refresh queues up when a
lookup waits for a fetch of its own, and the next lookup that waits comes after
it; `queued` tells that it stands in the queue. -/
def keysEach (cache : KeyCache) (now : Instant) (reply : Reply) (queued : Bool) :
    List String → List (Except KeyFault RsaKey) × KeyCache
  | [] => ([], cache)
  | keyId :: rest =>
      let (stage, cache) := cache.begin now keyId
      let cache := if queued ∧ stage.waits then cache.settle now reply else cache
      let sends := cache.sends stage now
      let (result, cache) := cache.resume stage now keyId reply
      let queued := cache.background.isSome ∧ (sends ∨ (queued ∧ !stage.waits))
      let (results, cache) := cache.keysEach now reply queued rest
      (result :: results, cache)

end Admission.KeyCache
