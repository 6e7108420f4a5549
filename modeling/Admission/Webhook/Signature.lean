import Admission.Bytes.Base64
import Admission.Bytes.Hex
import Admission.Digest.Hmac
import Admission.Text.Split

/-!
# Signatures

What is signed is a text of five lines: the method in upper case, the path, the
timestamp and the nonce as they were sent, and the digest of the body. The
signature is its keyed digest, sent in base64 or in hexadecimal.
-/

namespace Admission.Webhook

/-- The parts of a request that its signature covers. -/
structure SignedParts where
  method : String
  path : String
  timestamp : String
  nonce : String
  body : Bytes
deriving DecidableEq, Repr

namespace SignedParts

/-- The text that is signed. -/
def canonical (parts : SignedParts) : String :=
  Text.upperAscii parts.method ++ "\n" ++ parts.path ++ "\n" ++ parts.timestamp ++ "\n" ++
    parts.nonce ++ "\n" ++ Hex.text (Sha256.digest parts.body)

/-- The keyed digest of the signed text. -/
def tag (parts : SignedParts) (secret : Bytes) : Bytes :=
  Hmac.digest secret (Bytes.ofText parts.canonical)

/-- The signature a sender writes. -/
def sign (parts : SignedParts) (secret : Bytes) : String :=
  Base64.text .standard (parts.tag secret)

end SignedParts

/-- The number of bytes of a signature. -/
def signatureLength : Nat := 32

/-- The bytes of a written signature. Hexadecimal digits are base64 symbols too,
so base64 is preferred only where it gives the right number of bytes; otherwise
hexadecimal is preferred. -/
def decodeSignature? (raw : String) : Option Bytes :=
  let symbols := raw.toList
  let viaBase64 := Base64.decode? .standard symbols
  if viaBase64.map List.length = some signatureLength then viaBase64
  else
    match Hex.decode? symbols with
    | some bytes => some bytes
    | none => viaBase64

end Admission.Webhook
