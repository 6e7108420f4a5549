import Admission.Http.Header

/-!
# Bearer tokens

The token of the first authorization field: the word `bearer` in any case, a
space, and the token, with blanks around both.
-/

namespace Admission.Bearer

/-- The token in the value of an authorization field. -/
def ofValue? (value : List Char) : Option String := do
  let (scheme, rest) ← Text.splitOnce? ' ' (Text.trimSymbols value)
  let token := Text.trimSymbols rest
  if Text.sameIgnoringCase (String.ofList scheme) "bearer" ∧ !token.isEmpty then
    some (String.ofList token)
  else none

/-- The bearer token of a request. -/
def token? (headers : List Header) : Option String := do
  let value ← Header.firstText? headers "authorization"
  ofValue? value

end Admission.Bearer
