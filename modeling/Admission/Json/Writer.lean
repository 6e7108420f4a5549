import Admission.Binary64.Shortest
import Admission.Json

/-!
# Writing JSON

Values are written without blanks, each member name once.
-/

namespace Admission.Json

/-- One character inside a written string. -/
def escape (symbol : Char) : List Char :=
  match symbol with
  | '"' => ['\\', '"']
  | '\\' => ['\\', '\\']
  | '\n' => ['\\', 'n']
  | '\r' => ['\\', 'r']
  | '\t' => ['\\', 't']
  | _ =>
      let code := symbol.toNat
      if code = 8 then ['\\', 'b']
      else if code = 12 then ['\\', 'f']
      else if code < 0x20 then
        '\\' :: 'u' :: '0' :: '0' :: (Nat.toDigits 16 (code / 16) ++ Nat.toDigits 16 (code % 16))
      else [symbol]

/-- A written string. -/
def writeText (text : String) : String :=
  "\"" ++ String.ofList (text.toList.flatMap escape) ++ "\""

/-- A written number. -/
def Number.write : Number → String
  | .integer value => toString value
  | .real value => value.text

/-- Written parts between commas. -/
def joinParts (parts : List String) : String :=
  String.intercalate "," parts

mutual

/-- The written form of a value. -/
def write : Json → String
  | .null => "null"
  | .bool value => if value then "true" else "false"
  | .number value => value.write
  | .text value => writeText value
  | .array items => "[" ++ joinParts (writeItems items) ++ "]"
  | .object members =>
      "\x7b" ++ joinParts ((writeMembers members).map fun part =>
        writeText part.1 ++ ":" ++ part.2) ++ "\x7d"

/-- The written forms of the items of an array. -/
def writeItems : List Json → List String
  | [] => []
  | item :: rest => write item :: writeItems rest

/-- The names and written values of members; a repeated name keeps its last. -/
def writeMembers : List (String × Json) → List (String × String)
  | [] => []
  | (name, value) :: rest =>
      let later := writeMembers rest
      if later.any fun other => other.1 == name then later else (name, write value) :: later

end

end Admission.Json
