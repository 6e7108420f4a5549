import Admission.Time.Rfc3339

/-!
# Nonces

A nonce may be used once within its scope until it expires. The table keeps the
used nonces with their expiry and drops expired ones whenever a nonce is used.
-/

namespace Admission

/-- Why a nonce cannot be used. -/
inductive NonceFault where
  /-- The expiry does not lie after the clock. -/
  | expiryPassed (expiry : Instant)
  | unavailable (reason : String)
  | failure (reason : String)
deriving DecidableEq, Repr

namespace NonceFault

/-- The wording of a fault. -/
def message : NonceFault → String
  | .expiryPassed expiry => "nonce expiry " ++ Rfc3339.display expiry ++ " is in the past"
  | .unavailable reason => "nonce store unavailable: " ++ reason
  | .failure reason => "nonce store failure: " ++ reason

end NonceFault

/-- A used nonce. -/
structure UsedNonce where
  scope : String
  nonce : String
  expiry : Instant
deriving DecidableEq, Repr

/-- The used nonces, at most one entry for each scope and nonce. -/
structure NonceTable where
  entries : List UsedNonce
deriving DecidableEq, Repr

namespace NonceTable

/-- No nonce used. -/
def empty : NonceTable := ⟨[]⟩

/-- The number of entries, expired ones included. -/
def size (table : NonceTable) : Nat := table.entries.length

/-- The entries that expire after an instant. -/
def live (table : NonceTable) (now : Instant) : NonceTable :=
  ⟨table.entries.filter fun entry => now < entry.expiry⟩

/-- Whether a nonce is in the table. -/
def contains (table : NonceTable) (scope nonce : String) : Bool :=
  table.entries.any fun entry => entry.scope == scope && entry.nonce == nonce

/-- Use a nonce: true on its first use, false while an earlier use lives. An
expiry that has passed is refused and changes nothing. -/
def use (table : NonceTable) (now : Instant) (scope nonce : String) (expiry : Instant) :
    Except NonceFault Bool × NonceTable :=
  if expiry ≤ now then (.error (.expiryPassed expiry), table)
  else
    let live := table.live now
    if live.contains scope nonce then (.ok false, live)
    else (.ok true, ⟨⟨scope, nonce, expiry⟩ :: live.entries⟩)

end NonceTable

/-- How a store answers. -/
inductive NonceStore.Behaviour where
  /-- By its table. -/
  | memory
  /-- With a fault. -/
  | faulty (fault : NonceFault)
  /-- As if the expiry had passed. -/
  | refusesExpiry
  /-- As if every nonce had been used. -/
  | replays
deriving DecidableEq, Repr

/-- A store of used nonces that answers after a delay. -/
structure NonceStore where
  table : NonceTable
  behaviour : NonceStore.Behaviour
  delay : Duration
deriving DecidableEq, Repr

namespace NonceStore

/-- A prompt store with an empty table. -/
def memory : NonceStore := ⟨.empty, .memory, ⟨0⟩⟩

/-- Use a nonce. -/
def use (store : NonceStore) (now : Instant) (scope nonce : String) (expiry : Instant) :
    Except NonceFault Bool × NonceStore :=
  match store.behaviour with
  | .memory =>
      let (answer, table) := store.table.use now scope nonce expiry
      (answer, { store with table := table })
  | .faulty fault => (.error fault, store)
  | .refusesExpiry => (.error (.expiryPassed expiry), store)
  | .replays => (.ok false, store)

end NonceStore
end Admission
