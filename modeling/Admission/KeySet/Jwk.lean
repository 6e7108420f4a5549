import Admission.Bytes.Base64
import Admission.Json.Skim

/-!
# Published keys

A document lists keys as JSON objects. A key is usable when it is an RSA key
with an identifier, not meant for encryption, and for no other algorithm than
RS256. Entries that are not usable are passed over; of several usable entries
with one identifier the last counts. What else a document holds beside its list is
not read.
-/

namespace Admission

/-- The two numbers of an RSA public key, big-endian. -/
structure RsaKey where
  modulus : Bytes
  exponent : Bytes
deriving DecidableEq, Repr

/-- The kinds of key material. -/
inductive KeyMaterial where
  /-- The written forms of modulus and exponent. -/
  | rsa (modulus exponent : String)
  /-- Elliptic curves, shared secrets, and the like. -/
  | other
deriving DecidableEq, Repr

/-- A key entry that is well formed. -/
structure Jwk where
  keyId : Option String
  purpose : Option String
  algorithm : Option String
  material : KeyMaterial
deriving DecidableEq, Repr

namespace Jwk

/-- A member that may be absent or null, and otherwise is read by `read`. -/
def optional? {α : Type} (members : List (String × Json)) (name : String)
    (read : Json → Option α) : Option (Option α) :=
  match Json.lookup? members name with
  | none => some none
  | some .null => some none
  | some value => (read value).map some

/-- A list of texts. -/
def texts? (value : Json) : Option (List String) := do
  let items ← value.items?
  items.mapM Json.text?

/-- A text member that must be there. -/
def required? (members : List (String × Json)) (name : String) : Option String := do
  let value ← Json.lookup? members name
  value.text?

/-- The names of elliptic curves. -/
def curves : List String := ["P-256", "P-384", "P-521", "Ed25519"]

/-- The name that a member chooses, which must be there. -/
def choice? (members : List (String × Json)) (name : String) : Option String := do
  let value ← Json.lookup? members name
  value.choice?

/-- The name that an algorithm chooses; where it is an object, its only member may
also be an object without members. -/
def algorithm? : Json → Option String
  | .object [(name, .object [])] => some name
  | value => value.choice?

/-- The names of the members that make up key material of a kind. -/
def materialNames : String → List String
  | "RSA" => ["kty", "n", "e"]
  | "EC" => ["kty", "crv", "x", "y"]
  | "OKP" => ["kty", "crv", "x"]
  | "oct" => ["kty", "k"]
  | _ => []

/-- The key material of an entry, by its kind. -/
def material? (members : List (String × Json)) : Option KeyMaterial := do
  let kind ← choice? members "kty"
  if !Json.once members (materialNames kind) then none
  else
    match kind with
    | "RSA" => return .rsa (← required? members "n") (← required? members "e")
    | "EC" => do
        let curve ← choice? members "crv"
        let _ ← required? members "x"
        let _ ← required? members "y"
        if curves.contains curve then some .other else none
    | "OKP" => do
        let curve ← choice? members "crv"
        let _ ← required? members "x"
        if curves.contains curve then some .other else none
    | "oct" => do
        let _ ← required? members "k"
        some .other
    | _ => none

/-- The names of the members that describe a key of any kind. -/
def describingNames : List String :=
  ["use", "key_ops", "alg", "kid", "x5u", "x5c", "x5t", "x5t#S256"]

/-- The entry that members describe; none of the known members is repeated. -/
def ofMembers? (members : List (String × Json)) : Option Jwk := do
  let purpose ← optional? members "use" Json.text?
  let _ ← optional? members "key_ops" texts?
  let algorithm ← optional? members "alg" algorithm?
  let keyId ← optional? members "kid" Json.text?
  let _ ← optional? members "x5u" Json.text?
  let _ ← optional? members "x5c" texts?
  let _ ← optional? members "x5t" Json.text?
  let _ ← optional? members "x5t#S256" Json.text?
  let material ← material? members
  if Json.once members describingNames then some ⟨keyId, purpose, algorithm, material⟩ else none

/-- The key of an entry that may verify RS256 signatures. -/
def signingKey? (entry : Jwk) : Option RsaKey :=
  if entry.purpose = some "enc" then none
  else if entry.algorithm ≠ none ∧ entry.algorithm ≠ some "RS256" then none
  else
    match entry.material with
    | .other => none
    | .rsa modulus exponent => do
        let modulus ← Base64.decode? .urlSafe modulus.toList
        let exponent ← Base64.decode? .urlSafe exponent.toList
        return ⟨modulus, exponent⟩

/-- The identifier and key of a usable entry of a list; there the last of
repeated members counts. -/
def usable? (value : Json) : Option (String × RsaKey) := do
  let members ← value.members?
  let entry ← ofMembers? (Json.distinct members)
  let keyId ← entry.keyId
  if keyId.isEmpty then none
  else
    let key ← entry.signingKey?
    return (keyId, key)

end Jwk

/-- Keys by identifier, each identifier once. -/
structure KeySet where
  keys : List (String × RsaKey)
deriving DecidableEq, Repr

namespace KeySet

/-- No keys. -/
def empty : KeySet := ⟨[]⟩

/-- Add a key in place of an earlier one of its identifier. -/
def insert (set : KeySet) (keyId : String) (key : RsaKey) : KeySet :=
  ⟨(keyId, key) :: set.keys.filter fun entry => entry.1 != keyId⟩

/-- The key of an identifier. -/
def find? (set : KeySet) (keyId : String) : Option RsaKey :=
  (set.keys.find? fun entry => entry.1 == keyId).map (·.2)

/-- The identifiers, sorted. -/
def keyIds (set : KeySet) : List String :=
  (set.keys.map (·.1)).mergeSort fun left right => left ≤ right

/-- The usable keys among listed entries. -/
def ofEntries (entries : List Json) : KeySet :=
  entries.foldl
    (fun set entry =>
      match Jwk.usable? entry with
      | some (keyId, key) => set.insert keyId key
      | none => set)
    empty

/-- The entries that a document lists: those of its only member `keys`, or those
of the only item of an array. Where the list is absent there are none. -/
def entries? : Json → Option (List Json)
  | .object members =>
      match members.filter fun member => member.1 == "keys" with
      | [] => some []
      | [(_, value)] => value.items?
      | _ => none
  | .array [] => some []
  | .array [value] => value.items?
  | _ => none

/-- The usable keys of a document, when it is one. -/
def ofDocument? (document : Bytes) : Option KeySet := do
  let value ← Json.ofBytesKeeping? "keys" document
  let entries ← entries? value
  return ofEntries entries

end KeySet
end Admission
