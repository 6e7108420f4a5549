import Admission.KeySet.Jwk
import Admission.Text.Split
import Admission.Token.Fault

/-!
# Compact tokens

A token consists of a header, a payload and a signature, each in base64 and
separated by its last two dots. The header is a JSON object that names a known
algorithm; each of its registered members has its type and occurs once, and all
others are texts.
-/

namespace Admission.Token

/-- The written parts of a token. -/
structure Compact where
  header : List Char
  payload : List Char
  signature : List Char
deriving DecidableEq, Repr

namespace Compact

/-- The parts of a token. -/
def ofToken (token : String) : Except TokenFault Compact :=
  match Text.splitLast? '.' token.toList with
  | none => .error .malformed
  | some (message, signature) =>
      match Text.splitLast? '.' message with
      | none => .error .malformed
      | some (header, payload) => .ok ⟨header, payload, signature⟩

/-- What the signature is made of. -/
def signed (parts : Compact) : Bytes :=
  Bytes.ofText (String.ofList (parts.header ++ '.' :: parts.payload))

end Compact

/-- The bytes of a written part. -/
def partBytes (part : List Char) : Except TokenFault Bytes :=
  match Base64.decode? .urlSafe part with
  | some bytes => .ok bytes
  | none => .error .base64

/-- The members of a part that is a JSON object. -/
def partMembers (part : List Char) : Except TokenFault (List (String × Json)) := do
  let bytes ← partBytes part
  match (Json.ofBytes? bytes).bind Json.members? with
  | some members => .ok members
  | none => .error .json

/-- The names of known algorithms. -/
def algorithms : List String :=
  ["HS256", "HS384", "HS512", "ES256", "ES384", "RS256", "RS384", "RS512", "PS256", "PS384",
    "PS512", "EdDSA"]

/-- The header of a token. -/
structure Header where
  algorithm : String
  keyId : Option String
  /-- The members that are present, for showing them. -/
  members : List (String × Json)
deriving Repr

namespace Header

/-- Registered members that are texts. -/
def textNames : List String :=
  ["typ", "cty", "jku", "kid", "x5u", "x5t", "x5t#S256", "enc", "zip", "url", "nonce"]

/-- Registered members that are lists of texts. -/
def listNames : List String := ["x5c", "crit"]

/-- All registered members. -/
def registeredNames : List String := "alg" :: "jwk" :: textNames ++ listNames

/-- The known algorithm that a member chooses. -/
def algorithm? (value : Json) : Option String :=
  value.choice?.filter algorithms.contains

/-- Whether a member is well typed. Registered members other than the algorithm
may be null. -/
def wellTyped (member : String × Json) : Bool :=
  let (name, value) := member
  if name = "alg" then (algorithm? value).isSome
  else if registeredNames.contains name then
    match value with
    | .null => true
    | _ =>
        if name = "jwk" then (value.members?.bind Jwk.ofMembers?).isSome
        else if listNames.contains name then (Jwk.texts? value).isSome
        else value.text?.isSome
  else value.text?.isSome

/-- The header that members describe. -/
def ofMembers? (members : List (String × Json)) : Option Header := do
  if Json.once members registeredNames ∧ members.all wellTyped then
    let algorithm ← (← Json.lookup? members "alg") |> algorithm?
    return {
      algorithm := algorithm
      keyId := (Json.lookup? members "kid").bind Json.text?
      members := (Json.distinct members).filter fun member =>
        match member.2 with
        | .null => false
        | _ => true }
  else none

/-- The header of a token. -/
def ofToken (token : String) : Except TokenFault Header := do
  let parts ← Compact.ofToken token
  let members ← partMembers parts.header
  match ofMembers? members with
  | some header => .ok header
  | none => .error .json

end Header
end Admission.Token
