import Admission.Binary64

/-!
# JSON values

A value keeps the members of its objects as they were written, repetitions
included; looking a member up takes the last one of its name.
-/

namespace Admission

/-- A number of a JSON text. -/
inductive Json.Number where
  /-- A whole number that fits 64 bits, signed or unsigned. -/
  | integer (value : Int)
  /-- Every other number. -/
  | real (value : Binary64)
deriving DecidableEq, Repr

/-- A JSON value. -/
inductive Json where
  | null
  | bool (value : Bool)
  | number (value : Json.Number)
  | text (value : String)
  | array (items : List Json)
  | object (members : List (String × Json))
deriving Repr

namespace Json

instance : Inhabited Json := ⟨.null⟩

/-- A whole number as a value. -/
def integer (value : Int) : Json := .number (.integer value)

/-- A natural number as a value. -/
def nat (value : Nat) : Json := .integer value

/-- A text, or null when there is none. -/
def optionalText : Option String → Json
  | some value => .text value
  | none => .null

/-- The last value of a name among members. -/
def lookup? (members : List (String × Json)) (name : String) : Option Json :=
  match members with
  | [] => none
  | (candidate, value) :: rest =>
      match lookup? rest name with
      | some later => some later
      | none => if candidate = name then some value else none

/-- A member of an object. -/
def member? (value : Json) (name : String) : Option Json :=
  match value with
  | .object members => lookup? members name
  | _ => none

/-- The text of a text value. -/
def text? : Json → Option String
  | .text value => some value
  | _ => none

/-- The truth value of a boolean value. -/
def bool? : Json → Option Bool
  | .bool value => some value
  | _ => none

/-- The items of an array. -/
def items? : Json → Option (List Json)
  | .array items => some items
  | _ => none

/-- The members of an object. -/
def members? : Json → Option (List (String × Json))
  | .object members => some members
  | _ => none

/-- The whole number of a number value. -/
def integer? : Json → Option Int
  | .number (.integer value) => some value
  | _ => none

/-- The name that a value chooses: a text, or the only member of an object where
that member is null. -/
def choice? : Json → Option String
  | .text name => some name
  | .object [(name, .null)] => some name
  | _ => none

/-- How often a name occurs among members. -/
def occurrences (members : List (String × Json)) (name : String) : Nat :=
  (members.filter fun member => member.1 == name).length

/-- Whether none of some names is repeated among members. -/
def once (members : List (String × Json)) (names : List String) : Bool :=
  names.all fun name => occurrences members name ≤ 1

/-- Members with every name once: each keeps its first position and last value. -/
def distinct (members : List (String × Json)) : List (String × Json) :=
  members.foldl
    (fun kept member =>
      if kept.any fun other => other.1 == member.1 then
        kept.map fun other => if other.1 == member.1 then member else other
      else kept ++ [member])
    []

end Json
end Admission
