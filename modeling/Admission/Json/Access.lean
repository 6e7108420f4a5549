import Admission.Json
import Admission.Time.Instant

/-!
# Reading members

Members of an object by name, with what stands in for a member that is absent or
of another kind.
-/

namespace Admission.Json

/-- The member of a name, null when there is none. -/
def get (value : Json) (name : String) : Json := (value.member? name).getD .null

/-- Whether a member is there and not null. -/
def has (value : Json) (name : String) : Bool :=
  match value.member? name with
  | none => false
  | some .null => false
  | some _ => true

/-- The text of a member. -/
def textAt? (value : Json) (name : String) : Option String := (value.get name).text?

/-- The text of a member, empty when there is none. -/
def textAt (value : Json) (name : String) : String := (value.textAt? name).getD ""

/-- The text of a member, or the usual one. -/
def textOr (value : Json) (name usual : String) : String := (value.textAt? name).getD usual

/-- The items of a member. -/
def itemsAt (value : Json) (name : String) : List Json := ((value.get name).items?).getD []

/-- The texts among the items of a member. -/
def textsAt (value : Json) (name : String) : List String :=
  (value.itemsAt name).filterMap Json.text?

/-- The members of a member, each name once. -/
def membersAt (value : Json) (name : String) : List (String × Json) :=
  distinct (((value.get name).members?).getD [])

/-- The natural number of a member. -/
def natAt? (value : Json) (name : String) : Option Nat := (value.get name).integer?.map Int.toNat

/-- The truth value of a member, or the usual one. -/
def flagAt (value : Json) (name : String) (usual : Bool) : Bool :=
  ((value.get name).bool?).getD usual

/-- The seconds of a member, or the usual duration. -/
def secondsAt (value : Json) (name : String) (usual : Duration) : Duration :=
  ((value.natAt? name).map .seconds).getD usual

/-- The milliseconds of a member, or the usual duration. -/
def millisAt (value : Json) (name : String) (usual : Duration) : Duration :=
  ((value.natAt? name).map .milliseconds).getD usual

end Admission.Json
