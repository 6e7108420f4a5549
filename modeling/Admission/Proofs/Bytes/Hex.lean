import Admission.Bytes.Hex
import Admission.Proofs.Text.Case

/-!
# What hexadecimal text spells

A text spells bytes when it is their written form up to the case of its letters. Reading finds
exactly the bytes that are spelled, and finds some exactly in texts of an even number of digits.
-/

namespace Admission.Hex

variable {symbol : Char} {symbols : List Char} {value : Nat} {bytes : Bytes} {written : String}

/-- A hexadecimal digit of either case. -/
def IsDigit (symbol : Char) : Prop :=
  ('0' ≤ symbol ∧ symbol ≤ '9') ∨ ('a' ≤ symbol ∧ symbol ≤ 'f') ∨ ('A' ≤ symbol ∧ symbol ≤ 'F')

instance (symbol : Char) : Decidable (IsDigit symbol) := inferInstanceAs (Decidable (_ ∨ _))

/-- A text spells bytes when it is their written form up to the case of its letters. -/
def Spells (written : String) (bytes : Bytes) : Prop := Text.lowerAscii written = text bytes

instance (written : String) (bytes : Bytes) : Decidable (Spells written bytes) :=
  inferInstanceAs (Decidable (_ = _))

/-- Digits, and an even number of them. -/
def AllDigits (written : String) : Prop :=
  written.length % 2 = 0 ∧ ∀ symbol ∈ written.toList, IsDigit symbol

theorem digitValue?_isSome_iff : (digitValue? symbol).isSome ↔ IsDigit symbol := by
  unfold digitValue? IsDigit
  split
  · simp [*]
  · split
    · simp [*]
    · split <;> simp [*]

theorem toNat_digit (small : value < 16) :
    (digit value).toNat = if value < 10 then 48 + value else 87 + value := by
  have all : ∀ index ∈ List.range 16,
      (digit index).toNat = if index < 10 then 48 + index else 87 + index := by decide
  exact all value (List.mem_range.mpr small)

/-- A digit has the value that its lower-case form is written for. -/
theorem digitValue?_eq_some_iff :
    digitValue? symbol = some value ↔ value < 16 ∧ symbol.toLower = digit value := by
  have bounds (first last : Char) : first ≤ symbol ∧ symbol ≤ last ↔
      first.toNat ≤ symbol.toNat ∧ symbol.toNat ≤ last.toNat := Iff.rfl
  have lower := Text.toNat_toLower symbol
  rw [← Char.toNat_inj, lower]
  simp only [digitValue?, bounds, Char.reduceToNat]
  constructor
  · intro read
    have small : value < 16 := by
      split at read
      · cases read; omega
      · split at read
        · cases read; omega
        · split at read
          · cases read; omega
          · cases read
    refine ⟨small, ?_⟩
    rw [toNat_digit small]
    grind
  · rintro ⟨small, same⟩
    rw [toNat_digit small] at same
    grind

theorem encode_cons (byte : UInt8) (rest : Bytes) :
    encode (byte :: rest) = digit (byte.toNat / 16) :: digit (byte.toNat % 16) :: encode rest :=
  rfl

/-- Digits are read as bytes exactly when they are their written form up to case. -/
theorem decode?_eq_some_iff :
    decode? symbols = some bytes ↔ symbols.map Char.toLower = encode bytes := by
  fun_induction decode? symbols generalizing bytes with
  | case1 =>
      cases bytes with
      | nil => simp [encode]
      | cons byte rest => simp [encode_cons]
  | case2 symbol =>
      cases bytes with
      | nil => simp [encode]
      | cons byte rest => simp [encode_cons]
  | case3 high low rest inductionHypothesis =>
      cases bytes with
      | nil => simp [encode, Option.bind_eq_some_iff]
      | cons byte tail =>
          have bound : byte.toNat < 256 := byte.toNat_lt_size
          simp only [Option.bind_eq_bind, Option.bind_eq_some_iff, digitValue?_eq_some_iff,
            inductionHypothesis, Option.pure_def, Option.some.injEq, List.cons.injEq,
            List.map_cons, encode_cons]
          constructor
          · rintro ⟨upper, ⟨upperSmall, upperRead⟩, lower, ⟨lowerSmall, lowerRead⟩, _, tailRead,
              rfl, rfl⟩
            have byteValue : (UInt8.ofNat (upper * 16 + lower)).toNat = upper * 16 + lower := by
              rw [UInt8.toNat_ofNat']
              omega
            rw [byteValue, show (upper * 16 + lower) / 16 = upper by omega,
              show (upper * 16 + lower) % 16 = lower by omega]
            exact ⟨upperRead, lowerRead, tailRead⟩
          · rintro ⟨upperRead, lowerRead, tailRead⟩
            refine ⟨byte.toNat / 16, ⟨by omega, upperRead⟩, byte.toNat % 16, ⟨by omega, lowerRead⟩,
              tail, tailRead, ?_, rfl⟩
            rw [show byte.toNat / 16 * 16 + byte.toNat % 16 = byte.toNat by omega,
              UInt8.ofNat_toNat]

/-- Some bytes are read exactly from an even number of digits. -/
theorem decode?_isSome_iff :
    (decode? symbols).isSome ↔ symbols.length % 2 = 0 ∧ ∀ symbol ∈ symbols, IsDigit symbol := by
  fun_induction decode? symbols with
  | case1 => simp
  | case2 symbol => simp
  | case3 high low rest inductionHypothesis =>
      have parity : (rest.length + 1 + 1) % 2 = rest.length % 2 := by omega
      rw [List.length_cons, List.length_cons, parity, List.forall_mem_cons, List.forall_mem_cons,
        and_left_comm, and_left_comm (a := rest.length % 2 = 0), ← inductionHypothesis,
        ← digitValue?_isSome_iff, ← digitValue?_isSome_iff]
      cases digitValue? high <;> cases digitValue? low <;> cases decode? rest <;> simp

/-- A text is read as the bytes that it spells. -/
theorem spells_iff : Spells written bytes ↔ decode? written.toList = some bytes := by
  rw [decode?_eq_some_iff, Spells, Text.lowerAscii, text, String.ofList_inj]

/-- A text spells bytes exactly when it is an even number of digits. -/
theorem exists_spells_iff : (∃ bytes, Spells written bytes) ↔ AllDigits written := by
  simp only [spells_iff, ← Option.isSome_iff_exists, decode?_isSome_iff, AllDigits,
    String.length_toList]

theorem length_encode (bytes : Bytes) : (encode bytes).length = 2 * bytes.length := by
  induction bytes with
  | nil => rfl
  | cons byte rest inductionHypothesis =>
      rw [encode_cons, List.length_cons, List.length_cons, inductionHypothesis, List.length_cons]
      omega

/-- A text that spells bytes has two digits for each. -/
theorem Spells.length (spells : Spells written bytes) : written.length = 2 * bytes.length := by
  have lowered := decode?_eq_some_iff.mp (spells_iff.mp spells)
  rw [← length_encode, ← lowered, List.length_map, String.length_toList]

/-- A written form spells its bytes. -/
theorem spells_text (bytes : Bytes) : Spells (text bytes) bytes := by
  rw [spells_iff, text, String.toList_ofList, decode?_encode]

/-- Different bytes have different written forms. -/
theorem text_inj {left right : Bytes} : text left = text right ↔ left = right := by
  constructor
  · intro same
    rw [text, text, String.ofList_inj] at same
    have read := decode?_encode left
    rw [same, decode?_encode right] at read
    exact (Option.some.inj read).symm
  · rintro rfl
    rfl

end Admission.Hex
