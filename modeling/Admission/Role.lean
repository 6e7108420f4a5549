import Admission.Json
import Admission.Text.Lowercase

/-!
# Roles

A role is a text without surrounding blanks, in lower case and not empty. Roles
are kept sorted and without repetition.
-/

namespace Admission.Role

/-- The role a text names. -/
def normalize? (raw : String) : Option String :=
  let trimmed := Text.trim raw
  if trimmed.isEmpty then none else some (Text.lowercase trimmed)

/-- Add a role to a sorted list without repetition. -/
def insert (role : String) : List String → List String
  | [] => [role]
  | first :: rest =>
      if role < first then role :: first :: rest
      else if role = first then first :: rest
      else first :: insert role rest

/-- The roles that texts name. -/
def ofTexts (texts : List String) : List String :=
  (texts.filterMap normalize?).foldl (fun roles role => insert role roles) []

/-- The texts of a claim that grants roles: a single text, the texts of an
array, or the names of the members of an object that are true. -/
def claimedTexts : Json → List String
  | .text value => [value]
  | .array items => items.filterMap Json.text?
  | .object members =>
      (Json.distinct members).filterMap fun member =>
        if member.2.bool? = some true then some member.1 else none
  | _ => []

/-- The roles a claim grants. -/
def ofClaim (claim : Json) : List String :=
  ofTexts (claimedTexts claim)

end Admission.Role
