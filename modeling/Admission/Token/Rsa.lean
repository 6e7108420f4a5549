import Admission.Digest.Sha256
import Admission.KeySet.Jwk

/-!
# RS256 signatures

A signature is right when its power modulo the key is the padded digest of the
message.
-/

namespace Admission.RsaKey

/-- The remainder of `base ^ exponent` by `modulus`, by squaring. -/
def powerMod (base exponent modulus : Nat) : Nat :=
  if exponent = 0 then 1 % modulus
  else
    let half := powerMod (base * base % modulus) (exponent / 2) modulus
    if exponent % 2 = 1 then base * half % modulus else half
termination_by exponent

/-- The number of bits of a number. -/
def bitLength (value : Nat) : Nat := if value = 0 then 0 else Nat.log2 value + 1

/-- Whether a key may be used: at most 4096 bits, odd, with an odd exponent of
at most 33 bits below the modulus. -/
def isSound (key : RsaKey) : Bool :=
  let modulus := Bytes.toNat key.modulus
  let exponent := Bytes.toNat key.exponent
  bitLength modulus ≤ 4096 && modulus % 2 = 1 && exponent % 2 = 1 && 2 ≤ exponent &&
    exponent < Nat.pow 2 33 && exponent < modulus

/-- What stands before a SHA-256 digest in a padded message. -/
def digestHeading : Bytes :=
  [0x30, 0x31, 0x30, 0x0d, 0x06, 0x09, 0x60, 0x86, 0x48, 0x01, 0x65, 0x03, 0x04, 0x02, 0x01,
    0x05, 0x00, 0x04, 0x20]

/-- The padded digest of a message, when it fits the length. -/
def padded? (length : Nat) (message : Bytes) : Option Bytes :=
  let digest := digestHeading ++ Sha256.digest message
  if digest.length + 11 ≤ length then
    some (0 :: 1 :: (List.replicate (length - digest.length - 3) 0xff ++ 0 :: digest))
  else none

/-- Whether a signature of a message is right under a key. -/
def verifies (key : RsaKey) (message signature : Bytes) : Bool :=
  let modulus := Bytes.toNat key.modulus
  let length := (bitLength modulus + 7) / 8
  let value := Bytes.toNat signature
  if !key.isSound || signature.length ≠ length || modulus ≤ value then false
  else
    match padded? length message with
    | none => false
    | some expected => powerMod value (Bytes.toNat key.exponent) modulus = Bytes.toNat expected

end Admission.RsaKey
