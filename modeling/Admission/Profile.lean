import Admission.Json
import Admission.Time.Instant

/-!
# Profiles

A directory keeps a profile for each user. A profile is loaded at most once for
one identity: the first answer, a fault included, stays in a cell that all
copies of the identity share and no other identity sees.
-/

namespace Admission

/-- What a directory tells of a user. -/
structure Profile where
  uid : String
  email : Option String
  displayName : Option String
  disabled : Bool
  customClaims : List (String × Json)
deriving Repr

namespace Profile

/-- A text that may be null. -/
def nullableText? : Json → Option (Option String)
  | .null => some none
  | .text value => some (some value)
  | _ => none

/-- A part of a profile that may be absent. -/
def part? {α : Type} (value : Option Json) (usual : α) (read : Json → Option α) : Option α :=
  match value with
  | none => some usual
  | some value => read value

/-- The profile of five parts of which only the first must be there. -/
def ofParts? (uid email displayName disabled customClaims : Option Json) : Option Profile := do
  let uid ← uid.bind Json.text?
  let email ← part? email none nullableText?
  let displayName ← part? displayName none nullableText?
  let disabled ← part? disabled false Json.bool?
  let customClaims ← part? customClaims [] Json.members?
  return ⟨uid, email, displayName, disabled, customClaims⟩

/-- The profile that a value describes: an object with named parts, or an array
of the parts in order. -/
def ofJson? : Json → Option Profile
  | .object members =>
      ofParts? (Json.lookup? members "uid") (Json.lookup? members "email")
        (Json.lookup? members "display_name") (Json.lookup? members "disabled")
        (Json.lookup? members "custom_claims")
  | .array parts =>
      if 5 < parts.length then none
      else ofParts? parts[0]? parts[1]? parts[2]? parts[3]? parts[4]?
  | _ => none

/-- The profile as a value. -/
def json (profile : Profile) : Json :=
  .object [("uid", .text profile.uid), ("email", .optionalText profile.email),
    ("display_name", .optionalText profile.displayName), ("disabled", .bool profile.disabled),
    ("custom_claims", .object profile.customClaims)]

end Profile

/-- Why a profile is not loaded. -/
inductive ProfileFault where
  /-- The identity has no directory. -/
  | notConfigured
  | notFound (uid : String)
  | unavailable (reason : String)
deriving DecidableEq, Repr

namespace ProfileFault

/-- The wording of a fault. -/
def message : ProfileFault → String
  | .notConfigured => "no user loader configured"
  | .notFound uid => "user not found: " ++ uid
  | .unavailable reason => "user directory unavailable: " ++ reason

end ProfileFault

/-- The answer of a directory with the time it took. -/
structure ProfileAnswer where
  result : Except ProfileFault Profile
  delay : Duration

/-- A directory of profiles that answers after a delay. -/
structure Directory where
  answers : List (String × Except ProfileFault Profile)
  delay : Duration

namespace Directory

/-- The answer to a request for a profile. -/
def answer (directory : Directory) (uid : String) : ProfileAnswer :=
  match directory.answers.find? fun entry => entry.1 == uid with
  | some entry => ⟨entry.2, directory.delay⟩
  | none => ⟨.error (.notFound uid), directory.delay⟩

end Directory

/-- The cells of loaded profiles, one for each identity with a directory. -/
structure ProfileCells where
  cells : List (Option (Except ProfileFault Profile))

namespace ProfileCells

/-- No cells. -/
def none : ProfileCells := ⟨[]⟩

/-- A new cell that holds nothing yet. -/
def allocate (cells : ProfileCells) : Nat × ProfileCells :=
  (cells.cells.length, ⟨cells.cells ++ [Option.none]⟩)

/-- What a cell holds. -/
def held? (cells : ProfileCells) (cell : Nat) : Option (Except ProfileFault Profile) :=
  cells.cells[cell]?.join

/-- What an answer means to the caller: it must come in time. -/
def accept (uid : String) (timeout : Duration) (answer : ProfileAnswer) :
    Except ProfileFault Profile :=
  if timeout.nanoseconds < answer.delay.nanoseconds then
    .error (.unavailable ("profile fetch for " ++ uid ++ " timed out"))
  else answer.result

/-- The result of loading a profile. -/
structure Load where
  result : Except ProfileFault Profile
  cells : ProfileCells
  /-- Whether the directory was asked. -/
  asked : Bool

/-- Load a profile through a cell; `answer` is what the directory would say. -/
def load (cells : ProfileCells) (cell : Nat) (uid : String) (timeout : Duration)
    (answer : ProfileAnswer) : Load :=
  match cells.held? cell with
  | some result => ⟨result, cells, false⟩
  | Option.none =>
      let result := accept uid timeout answer
      ⟨result, ⟨cells.cells.set cell (some result)⟩, true⟩

end ProfileCells
end Admission
