import Admission.Bytes

/-!
# Base64 text

Reading is strict in both variants: the padding must be exactly the one that
writing produces, and the bits of the last symbol that belong to no byte must
be zero. Every byte sequence therefore has one written form.
-/

namespace Admission.Base64

/-- The two written forms in use. -/
inductive Variant where
  /-- The alphabet ending in `+` and `/`, padded to a multiple of four. -/
  | standard
  /-- The alphabet ending in `-` and `_`, without padding. -/
  | urlSafe
deriving DecidableEq, Repr

/-- Whether the written form is filled up with `=`. -/
def Variant.padded : Variant → Bool
  | .standard => true
  | .urlSafe => false

/-- The symbol of a value below sixty-four. -/
def Variant.symbol (variant : Variant) (value : Nat) : Char :=
  if value < 26 then Char.ofNat (65 + value)
  else if value < 52 then Char.ofNat (71 + value)
  else if value < 62 then Char.ofNat (value - 4)
  else if value = 62 then (match variant with | .standard => '+' | .urlSafe => '-')
  else (match variant with | .standard => '/' | .urlSafe => '_')

/-- The value of a symbol. -/
def Variant.value? (variant : Variant) (symbol : Char) : Option Nat :=
  if 'A' ≤ symbol ∧ symbol ≤ 'Z' then some (symbol.toNat - 65)
  else if 'a' ≤ symbol ∧ symbol ≤ 'z' then some (symbol.toNat - 71)
  else if '0' ≤ symbol ∧ symbol ≤ '9' then some (symbol.toNat + 4)
  else if symbol = variant.symbol 62 then some 62
  else if symbol = variant.symbol 63 then some 63
  else none

/-- Filling symbols after an incomplete last group. -/
def Variant.filling (variant : Variant) (count : Nat) : List Char :=
  if variant.padded then List.replicate count '=' else []

/-- Four symbols for each three bytes; a shorter last group is filled up. -/
def encode (variant : Variant) : Bytes → List Char
  | [] => []
  | [first] =>
      let bits := first.toNat * 16
      variant.symbol (bits / 64) :: variant.symbol (bits % 64) :: variant.filling 2
  | [first, second] =>
      let bits := (first.toNat * 256 + second.toNat) * 4
      variant.symbol (bits / 4096) :: variant.symbol (bits / 64 % 64) ::
        variant.symbol (bits % 64) :: variant.filling 1
  | first :: second :: third :: rest =>
      let bits := (first.toNat * 256 + second.toNat) * 256 + third.toNat
      variant.symbol (bits / 262144) :: variant.symbol (bits / 4096 % 64) ::
        variant.symbol (bits / 64 % 64) :: variant.symbol (bits % 64) :: encode variant rest

/-- The byte held by a last group of two symbols. -/
def lastOne? (variant : Variant) (first second : Char) : Option Bytes := do
  let first ← variant.value? first
  let second ← variant.value? second
  let bits := first * 64 + second
  if bits % 16 = 0 then some [UInt8.ofNat (bits / 16)] else none

/-- The bytes held by a last group of three symbols. -/
def lastTwo? (variant : Variant) (first second third : Char) : Option Bytes := do
  let first ← variant.value? first
  let second ← variant.value? second
  let third ← variant.value? third
  let bits := (first * 64 + second) * 64 + third
  if bits % 4 = 0 then
    some [UInt8.ofNat (bits / 1024), UInt8.ofNat (bits / 4 % 256)]
  else none

/-- The bytes held by a full group. -/
def group? (variant : Variant) (first second third fourth : Char) : Option Bytes := do
  let first ← variant.value? first
  let second ← variant.value? second
  let third ← variant.value? third
  let fourth ← variant.value? fourth
  let bits := ((first * 64 + second) * 64 + third) * 64 + fourth
  some [UInt8.ofNat (bits / 65536), UInt8.ofNat (bits / 256 % 256), UInt8.ofNat (bits % 256)]

/-- The bytes of a written form, and nothing for any other text. -/
def decode? (variant : Variant) : List Char → Option Bytes
  | [] => some []
  | [_] => none
  | [first, second] => if variant.padded then none else lastOne? variant first second
  | [first, second, third] =>
      if variant.padded then none else lastTwo? variant first second third
  | [first, second, third, fourth] =>
      if variant.padded ∧ fourth = '=' then
        if third = '=' then lastOne? variant first second
        else lastTwo? variant first second third
      else group? variant first second third fourth
  | first :: second :: third :: fourth :: rest => do
      let head ← group? variant first second third fourth
      let tail ← decode? variant rest
      return head ++ tail

/-- The written form as text. -/
def text (variant : Variant) (bytes : Bytes) : String :=
  String.ofList (encode variant bytes)

end Admission.Base64
