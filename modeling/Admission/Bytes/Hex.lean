import Admission.Bytes

/-!
# Hexadecimal text

Writing uses lower-case digits, two for each byte. Reading accepts either case
and refuses an odd number of digits and every other character.
-/

namespace Admission.Hex

/-- The lower-case digit of a value below sixteen. -/
def digit (value : Nat) : Char :=
  if value < 10 then Char.ofNat (48 + value) else Char.ofNat (87 + value)

/-- The value of a digit of either case. -/
def digitValue? (symbol : Char) : Option Nat :=
  if '0' ≤ symbol ∧ symbol ≤ '9' then some (symbol.toNat - 48)
  else if 'a' ≤ symbol ∧ symbol ≤ 'f' then some (symbol.toNat - 87)
  else if 'A' ≤ symbol ∧ symbol ≤ 'F' then some (symbol.toNat - 55)
  else none

/-- Two lower-case digits for each byte, the high half first. -/
def encode (bytes : Bytes) : List Char :=
  bytes.flatMap fun byte => [digit (byte.toNat / 16), digit (byte.toNat % 16)]

/-- The bytes spelled by pairs of digits. -/
def decode? : List Char → Option Bytes
  | [] => some []
  | [_] => none
  | high :: low :: rest => do
      let high ← digitValue? high
      let low ← digitValue? low
      let tail ← decode? rest
      return UInt8.ofNat (high * 16 + low) :: tail

/-- The written form as text. -/
def text (bytes : Bytes) : String :=
  String.ofList (encode bytes)

/-- The digits of a number without leading zeros, as used for code points. -/
def ofNat (value : Nat) : String :=
  String.ofList (Nat.toDigits 16 value)

theorem digitValue?_digit {value : Nat} (small : value < 16) :
    digitValue? (digit value) = some value := by
  have all : ∀ index ∈ List.range 16, digitValue? (digit index) = some index := by decide
  exact all value (List.mem_range.mpr small)

/-- Reading inverts writing. -/
theorem decode?_encode (bytes : Bytes) : decode? (encode bytes) = some bytes := by
  induction bytes with
  | nil => rfl
  | cons byte rest inductionHypothesis =>
      have bound : byte.toNat < 256 := byte.toNat_lt_size
      have high := digitValue?_digit (show byte.toNat / 16 < 16 by omega)
      have low := digitValue?_digit (show byte.toNat % 16 < 16 by omega)
      have joined : byte.toNat / 16 * 16 + byte.toNat % 16 = byte.toNat := by omega
      simp only [encode, List.flatMap_cons, List.cons_append, List.nil_append] at *
      simp only [decode?, high, low, inductionHypothesis, joined, Option.bind_eq_bind,
        Option.bind_some, UInt8.ofNat_toNat, Option.pure_def]

end Admission.Hex
