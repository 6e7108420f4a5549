import Admission.Http.Response
import Admission.KeySet.Freshness
import Admission.KeySet.Jwk
import Admission.Text.Quoted

/-!
# The key cache

The keys last fetched from an endpoint form a snapshot with a window of
freshness. A snapshot is replaced whole and only by a successful fetch, so a
failed one takes nothing away. Refreshes run one at a time; each names the
generation it wants to see replaced and does nothing when another refresh has
already replaced it.
-/

namespace Admission

/-- What comes back from a key endpoint. -/
inductive Reply where
  /-- The connection fails or is closed without an answer. -/
  | unreachable
  /-- Nothing comes back until the time for a fetch is over. -/
  | silent
  /-- An answer with its status, header fields and body. -/
  | answer (status : Nat) (headers : List Header) (body : Bytes)
  /-- An answer whose body breaks off. -/
  | cutShort (status : Nat) (headers : List Header)
deriving DecidableEq, Repr

/-- Why a fetch brings no keys. -/
inductive FetchFault where
  | transport
  | status (code : Nat)
  | validity
  | undecodable
  | noKeys
deriving DecidableEq, Repr

namespace FetchFault

/-- The wording of a fault. -/
def message : FetchFault → String
  | .transport => "transport"
  | .status code =>
      "HTTP " ++ toString code ++ " " ++
        (Response.reasonPhrase? code).getD "<unknown status code>" ++ " from JWKS endpoint"
  | .validity => "JWKS validity out of range"
  | .undecodable => "undecodable JWKS"
  | .noKeys => "JWKS contains no usable keys"

end FetchFault

/-- Why no key is found. -/
inductive KeyFault where
  | fetchFailed (fault : FetchFault)
  | keyNotFound (keyId : String)
  /-- The token is for another algorithm. -/
  | foreignAlgorithm (name : String)
  /-- The token names no key. -/
  | missingKeyId
deriving DecidableEq, Repr

namespace KeyFault

/-- The wording of a fault. -/
def message : KeyFault → String
  | .fetchFailed fault => "failed to fetch JWKS: " ++ fault.message
  | .keyNotFound keyId => "no JWKS key matches kid " ++ Text.quoted keyId
  | .foreignAlgorithm name =>
      "unsupported token header: algorithm " ++ name ++ " is not RS256"
  | .missingKeyId => "unsupported token header: missing kid"

/-- Whether the fault is one of fetching, not of the token. -/
def isFetch : KeyFault → Bool
  | .fetchFailed _ => true
  | _ => false

end KeyFault

/-- The settings of a key cache. -/
structure KeyCache.Settings where
  defaultLifetime : Duration
  maxLifetime : Duration
  fetchTimeout : Duration
  /-- The least time between two refreshes forced by unknown identifiers. -/
  forcedInterval : Duration
  /-- Whether keys are fetched ahead of their expiry. -/
  prefetches : Bool
deriving DecidableEq, Repr

/-- The settings when none are chosen. -/
def KeyCache.Settings.standard : KeyCache.Settings where
  defaultLifetime := .seconds 900
  maxLifetime := .seconds 86400
  fetchTimeout := .milliseconds 5000
  forcedInterval := .seconds 30
  prefetches := true

/-- The keys of one successful fetch. -/
structure Snapshot where
  keys : KeySet
  window : Freshness.Window
  generation : Nat
deriving DecidableEq, Repr

/-- How fresh the keys of a cache are. -/
inductive Standing where
  | cold
  | fresh
  | prefetch
  | stale
deriving DecidableEq, Repr

namespace Standing

/-- The label of a standing. -/
def label : Standing → String
  | .cold => "Cold"
  | .fresh => "Fresh"
  | .prefetch => "Prefetch"
  | .stale => "Stale"

end Standing

namespace Snapshot

/-- The standing of a snapshot: stale from its expiry on, before that to be
fetched ahead from the middle of its window on. -/
def standing (snapshot : Snapshot) (now : Instant) : Standing :=
  if snapshot.window.expiry ≤ now then .stale
  else if snapshot.window.prefetchAt ≤ now then .prefetch
  else .fresh

end Snapshot

/-- A cache of keys. -/
structure KeyCache where
  settings : KeyCache.Settings
  snapshot : Option Snapshot
  /-- When an unknown identifier last forced a refresh, in milliseconds. -/
  lastForced : Option Int
  /-- The number of fetches so far. -/
  fetches : Nat
  /-- Whether each completed refresh brought keys. -/
  refreshes : List Bool
  /-- The generation that a refresh running in the background wants replaced. -/
  background : Option Nat
deriving DecidableEq, Repr

namespace KeyCache

/-- A cache without keys. -/
def cold (settings : Settings) : KeyCache := ⟨settings, none, none, 0, [], none⟩

/-- The standing of the cache. -/
def standing (cache : KeyCache) (now : Instant) : Standing :=
  match cache.snapshot with
  | none => .cold
  | some snapshot => snapshot.standing now

/-- The generation of the snapshot, zero when there is none. -/
def generation (cache : KeyCache) : Nat :=
  match cache.snapshot with
  | none => 0
  | some snapshot => snapshot.generation

/-- The identifiers of the snapshot, sorted. -/
def keyIds (cache : KeyCache) : List String :=
  match cache.snapshot with
  | none => []
  | some snapshot => snapshot.keys.keyIds

/-- What a reply brings: keys and their window. The status counts first, then
the caching headers, then the body. -/
def evaluate (settings : Settings) (now : Instant) : Reply →
    Except FetchFault (KeySet × Freshness.Window)
  | .unreachable => .error .transport
  | .silent => .error .transport
  | .cutShort status headers =>
      if status ≠ 200 then .error (.status status)
      else
        match Freshness.responseWindow? headers now settings.defaultLifetime
            settings.maxLifetime with
        | none => .error .validity
        | some _ => .error .transport
  | .answer status headers body =>
      if status ≠ 200 then .error (.status status)
      else
        match Freshness.responseWindow? headers now settings.defaultLifetime
            settings.maxLifetime with
        | none => .error .validity
        | some window =>
            match KeySet.ofDocument? body with
            | none => .error .undecodable
            | some keys => if keys.keys.isEmpty then .error .noKeys else .ok (keys, window)

/-- How long a fetch lasts that comes back with a reply, drawn out as long as the endpoint
likes, whatever the reply brings. The time for a fetch bounds it, and is used up where
nothing comes back. -/
def waiting (settings : Settings) (drawn : Duration) : Reply → Duration
  | .silent => settings.fetchTimeout
  | _ => drawn.shorter settings.fetchTimeout

/-- Whether a refresh that wants `observed` replaced finds a usable snapshot of
another generation. -/
def replaced? (cache : KeyCache) (observed : Nat) (now : Instant) : Option Snapshot :=
  match cache.snapshot with
  | some current =>
      if current.generation ≠ observed ∧ current.standing now ≠ .stale then some current else none
  | none => none

/-- The cache once a fetch has been sent. -/
def sent (cache : KeyCache) : KeyCache := { cache with fetches := cache.fetches + 1 }

/-- One refresh, run while no other is: use a snapshot that has already replaced
the observed one, or else fetch and install the next generation. -/
def refreshAfter (cache : KeyCache) (observed : Nat) (now : Instant) (reply : Reply) :
    Except FetchFault Snapshot × KeyCache :=
  match cache.replaced? observed now with
  | some current => (.ok current, cache)
  | none =>
      let sent := cache.sent
      match evaluate cache.settings now reply with
      | .error fault => (.error fault, { sent with refreshes := sent.refreshes ++ [false] })
      | .ok (keys, window) =>
          let snapshot : Snapshot := ⟨keys, window, cache.generation + 1⟩
          (.ok snapshot,
            { sent with snapshot := some snapshot, refreshes := sent.refreshes ++ [true] })

/-- Refresh the current generation. -/
def refresh (cache : KeyCache) (now : Instant) (reply : Reply) :
    Except FetchFault Snapshot × KeyCache :=
  cache.refreshAfter cache.generation now reply

/-- Whether a forced refresh is still too recent for another one. -/
def forcedRecently (cache : KeyCache) (now : Instant) : Bool :=
  match cache.lastForced with
  | none => false
  | some last => now.millis - last < cache.settings.forcedInterval.span.wholeMillis

/-- Claim the right to force a refresh. -/
def claimForced (cache : KeyCache) (now : Instant) : Option KeyCache :=
  if cache.forcedRecently now then none else some { cache with lastForced := some now.millis }

/-- Start one refresh in the background, unless one is running. -/
def startBackground (cache : KeyCache) (observed : Nat) : KeyCache :=
  if cache.settings.prefetches ∧ cache.background.isNone then
    { cache with background := some observed }
  else cache

/-- Let the background refresh finish. -/
def settle (cache : KeyCache) (now : Instant) (reply : Reply) : KeyCache :=
  match cache.background with
  | none => cache
  | some observed => { (cache.refreshAfter observed now reply).2 with background := none }

/-- What a lookup does after it has read the snapshot. -/
inductive Stage where
  /-- It is over. -/
  | done (result : Except KeyFault RsaKey)
  /-- It refreshes a missing or stale snapshot, and falls back to the stale one. -/
  | refreshing (observed : Nat) (fallback : Option Snapshot)
  /-- It refreshes because the snapshot lacks the identifier. -/
  | forcing (observed : Nat)
  /-- It waits for a running refresh and reads again. -/
  | rereading

/-- Start a background refresh when a key was found in a snapshot that is to be
fetched ahead. -/
def found (cache : KeyCache) (snapshot : Snapshot) (now : Instant) : KeyCache :=
  if snapshot.standing now = .prefetch then cache.startBackground snapshot.generation else cache

/-- The first step of a lookup: read the snapshot, and claim a forced refresh
where the identifier is unknown. -/
def begin (cache : KeyCache) (now : Instant) (keyId : String) : Stage × KeyCache :=
  match cache.snapshot with
  | none => (.refreshing 0 none, cache)
  | some snapshot =>
      if snapshot.standing now = .stale then
        (.refreshing snapshot.generation (some snapshot), cache)
      else
        match snapshot.keys.find? keyId with
        | some key => (.done (.ok key), cache.found snapshot now)
        | none =>
            match cache.claimForced now with
            | some claimed => (.forcing snapshot.generation, claimed)
            | none => (.rereading, cache)

/-- The key of an identifier in a snapshot. -/
def keyIn (snapshot : Snapshot) (keyId : String) : Except KeyFault RsaKey :=
  match snapshot.keys.find? keyId with
  | some key => .ok key
  | none => .error (.keyNotFound keyId)

/-- The second step of a lookup, run while no other refresh is. -/
def resume (cache : KeyCache) (stage : Stage) (now : Instant) (keyId : String) (reply : Reply) :
    Except KeyFault RsaKey × KeyCache :=
  match stage with
  | .done result => (result, cache)
  | .refreshing observed fallback =>
      match cache.refreshAfter observed now reply with
      | (.ok snapshot, cache) =>
          match snapshot.keys.find? keyId with
          | some key => (.ok key, cache.found snapshot now)
          | none => (.error (.keyNotFound keyId), cache)
      | (.error fault, cache) =>
          match fallback.bind fun snapshot => snapshot.keys.find? keyId with
          | some key => (.ok key, cache)
          | none => (.error (.fetchFailed fault), cache)
  | .forcing observed =>
      match cache.refreshAfter observed now reply with
      | (.ok snapshot, cache) => (keyIn snapshot keyId, cache)
      | (.error fault, cache) => (.error (.fetchFailed fault), cache)
  | .rereading =>
      match cache.snapshot with
      | some snapshot => (keyIn snapshot keyId, cache)
      | none => (.error (.keyNotFound keyId), cache)

/-- Whether the second step of a lookup sends a fetch. -/
def sends (cache : KeyCache) (stage : Stage) (now : Instant) : Bool :=
  match stage with
  | .refreshing observed _ | .forcing observed => (cache.replaced? observed now).isNone
  | _ => false

/-- The outcome of a lookup. -/
structure Lookup where
  result : Except KeyFault RsaKey
  cache : KeyCache
  /-- Whether the caller waits for a fetch. -/
  waits : Bool
  /-- The cache when the caller gives up while a fetch is under way. -/
  abandoned : KeyCache

/-- The key of an identifier: both steps of a lookup, one after the other. -/
def key (cache : KeyCache) (now : Instant) (keyId : String) (reply : Reply) : Lookup :=
  let (stage, begun) := cache.begin now keyId
  let (result, after) := begun.resume stage now keyId reply
  if begun.sends stage now then ⟨result, after, true, begun.sent⟩
  else ⟨result, after, false, after⟩

/-- The key that a token header asks for: only RS256 with a named key. -/
def keyForHeader (cache : KeyCache) (now : Instant) (algorithm : String) (keyId : Option String)
    (reply : Reply) : Lookup :=
  let refused (fault : KeyFault) : Lookup := ⟨.error fault, cache, false, cache⟩
  if algorithm ≠ "RS256" then refused (.foreignAlgorithm algorithm)
  else
    match keyId with
    | none => refused .missingKeyId
    | some keyId => if keyId.isEmpty then refused .missingKeyId else cache.key now keyId reply

end KeyCache
end Admission
