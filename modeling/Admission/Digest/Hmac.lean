import Admission.Digest.Sha256

/-!
# Keyed digests

The keyed SHA-256 digest of a message under a secret key of any length.
-/

namespace Admission.Hmac

/-- The key brought to the length of one block. -/
def blockKey (key : Bytes) : Bytes :=
  let short := if key.length ≤ 64 then key else Sha256.digest key
  short ++ List.replicate (64 - short.length) 0

/-- The keyed digest of a message. -/
def digest (key message : Bytes) : Bytes :=
  let key := blockKey key
  let inner := Sha256.digest (key.map (· ^^^ 0x36) ++ message)
  Sha256.digest (key.map (· ^^^ 0x5c) ++ inner)

/-- Every keyed digest has thirty-two bytes. -/
theorem length_digest (key message : Bytes) : (digest key message).length = 32 :=
  Sha256.length_digest _

end Admission.Hmac
