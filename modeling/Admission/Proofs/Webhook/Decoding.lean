import Mathlib.Logic.Basic
import Admission.Proofs.Bytes.Base64
import Admission.Proofs.Bytes.Hex
import Admission.Webhook.Signature

/-!
# Reading signatures

Hexadecimal digits are symbols of base64 too, so that many texts belong to both. The base64
form of a signature is none of them: its number of bytes leaves room for a filling symbol,
which is no digit. So it does not matter that base64 is tried first, and a text denotes what its
digits spell or else what it is the base64 form of.
-/

namespace Admission.Webhook

variable {raw : String} {tag : Bytes} {result : Option Bytes}

/-- What a written signature denotes. -/
inductive Denotes (raw : String) : Option Bytes → Prop where
  /-- Its digits spell bytes. -/
  | digits {bytes : Bytes} (spells : Hex.Spells raw bytes) : Denotes raw (some bytes)
  /-- It is no text of digits, but the base64 form of bytes. -/
  | base64 {bytes : Bytes} (other : ¬ Hex.AllDigits raw)
      (written : raw = Base64.text .standard bytes) : Denotes raw (some bytes)
  /-- It is neither. -/
  | neither (other : ¬ Hex.AllDigits raw)
      (unwritten : ∀ bytes, raw ≠ Base64.text .standard bytes) : Denotes raw none

/-- The base64 form of a signature is no text of digits. -/
theorem not_allDigits_text (long : tag.length = signatureLength) :
    ¬ Hex.AllDigits (Base64.text .standard tag) := by
  intro digits
  have incomplete : tag.length % 3 ≠ 0 := by
    rw [long]
    decide
  have filled := Base64.filling_mem_encode tag incomplete
  rw [← String.toList_ofList (l := Base64.encode .standard tag)] at filled
  exact absurd (digits.2 '=' filled) (by decide)

/-- Digits count before base64, whatever the number of bytes. -/
theorem decodeSignature?_eq (raw : String) : decodeSignature? raw =
    (Hex.decode? raw.toList).or (Base64.decode? .standard raw.toList) := by
  unfold decodeSignature?
  dsimp only
  split
  · rename_i preferred
    obtain ⟨tag, read, long⟩ := Option.map_eq_some_iff.mp preferred
    have unspelled : Hex.decode? raw.toList = none := by
      cases spelled : Hex.decode? raw.toList with
      | none => rfl
      | some bytes =>
          have digits := Hex.exists_spells_iff.mp ⟨bytes, Hex.spells_iff.mpr spelled⟩
          rw [Base64.eq_text_iff.mpr read] at digits
          exact absurd digits (not_allDigits_text long)
    rw [unspelled, Option.none_or]
  · cases Hex.decode? raw.toList <;> rfl

/-- A signature is read as what it denotes. -/
theorem decodeSignature?_eq_iff : decodeSignature? raw = result ↔ Denotes raw result := by
  rw [decodeSignature?_eq]
  cases spelled : Hex.decode? raw.toList with
  | some bytes =>
      have spells := Hex.spells_iff.mpr spelled
      have digits := Hex.exists_spells_iff.mp ⟨bytes, spells⟩
      rw [Option.some_or]
      constructor
      · rintro rfl
        exact .digits spells
      · intro denotes
        cases denotes with
        | digits again =>
            rw [Hex.spells_iff, spelled] at again
            exact again
        | base64 other written => exact absurd digits other
        | neither other unwritten => exact absurd digits other
  | none =>
      have other : ¬ Hex.AllDigits raw := by
        rw [← Hex.exists_spells_iff]
        rintro ⟨bytes, spells⟩
        rw [Hex.spells_iff, spelled] at spells
        cases spells
      rw [Option.none_or]
      constructor
      · rintro rfl
        cases read : Base64.decode? .standard raw.toList with
        | some bytes => exact .base64 other (Base64.eq_text_iff.mpr read)
        | none =>
            refine .neither other fun bytes written => ?_
            rw [Base64.eq_text_iff, read] at written
            cases written
      · intro denotes
        cases denotes with
        | digits spells => exact absurd (Hex.exists_spells_iff.mp ⟨_, spells⟩) other
        | base64 _ written => exact Base64.eq_text_iff.mp written
        | neither _ unwritten =>
            cases read : Base64.decode? .standard raw.toList with
            | none => rfl
            | some bytes => exact absurd (Base64.eq_text_iff.mpr read) (unwritten bytes)

/-- A text denotes a signature exactly when it is its base64 form, or the digits that spell it. -/
theorem denotes_tag_iff (long : tag.length = signatureLength) :
    Denotes raw (some tag) ↔
      raw = Base64.text .standard tag ∨ raw.length = 2 * signatureLength ∧ Hex.Spells raw tag := by
  constructor
  · intro denotes
    cases denotes with
    | digits spells => exact .inr ⟨long ▸ spells.length, spells⟩
    | base64 other written => exact .inl written
  · rintro (rfl | ⟨_, spells⟩)
    · exact .base64 (not_allDigits_text long) rfl
    · exact .digits spells

/-- A text is read as a signature exactly when it is its base64 form or consists of the
sixty-four digits that spell it. No text is the one for some signature and the other for some
other. Every other text is read as what its digits spell, or else as what it is the base64 form
of, or else not at all. So both forms of every signature are read back. -/
theorem signatures_read_unambiguously (raw : String) :
    (∀ tag : Bytes, tag.length = signatureLength →
        (decodeSignature? raw = some tag ↔
          raw = Base64.text .standard tag ∨
            raw.length = 2 * signatureLength ∧ Hex.Spells raw tag)) ∧
      (∀ tag other : Bytes, tag.length = signatureLength → raw = Base64.text .standard tag →
        ¬ Hex.Spells raw other) ∧
      (∀ result, decodeSignature? raw = result ↔ Denotes raw result) ∧
      ∀ tag : Bytes, tag.length = signatureLength →
        decodeSignature? (Base64.text .standard tag) = some tag ∧
          decodeSignature? (Hex.text tag) = some tag ∧
          ∀ written, Hex.Spells written tag → decodeSignature? written = some tag := by
  refine ⟨?tags, ?apart, fun _ => decodeSignature?_eq_iff, ?roundTrips⟩
  case tags =>
    intro tag long
    rw [decodeSignature?_eq_iff, denotes_tag_iff long]
  case apart =>
    intro tag other long written spells
    exact not_allDigits_text long (written ▸ Hex.exists_spells_iff.mp ⟨other, spells⟩)
  case roundTrips =>
    intro tag long
    have spelled (written : String) (spells : Hex.Spells written tag) :
        decodeSignature? written = some tag :=
      decodeSignature?_eq_iff.mpr (.digits spells)
    exact ⟨decodeSignature?_eq_iff.mpr ((denotes_tag_iff long).mpr (.inl rfl)),
      spelled _ (Hex.spells_text tag), spelled⟩

namespace Sample

/-- The bytes from zero to thirty-one as a signature. -/
def ascending : Bytes := (List.range 32).map UInt8.ofNat

def ascendingBase64 : String := "AAECAwQFBgcICQoLDA0ODxAREhMUFRYXGBkaGxwdHh8="

/-- Digits of both cases. -/
def ascendingDigits : String := "000102030405060708090a0B0c0D0e0F101112131415161718191A1b1C1d1E1f"

end Sample

/-- A signature is read from its base64 form, which spells no bytes, and from digits of both
cases. -/
theorem ascending_read_from_both_forms :
    Sample.ascending.length = signatureLength ∧
      Sample.ascendingBase64 = Base64.text .standard Sample.ascending ∧
      Hex.Spells Sample.ascendingDigits Sample.ascending ∧
      decodeSignature? Sample.ascendingBase64 = some Sample.ascending ∧
      ¬ Hex.Spells Sample.ascendingBase64 Sample.ascending ∧
      decodeSignature? Sample.ascendingDigits = some Sample.ascending := by
  have long : Sample.ascending.length = signatureLength := by decide
  have written : Sample.ascendingBase64 = Base64.text .standard Sample.ascending := by decide +kernel
  have spells : Hex.Spells Sample.ascendingDigits Sample.ascending := by decide +kernel
  obtain ⟨tags, apart, _, _⟩ := signatures_read_unambiguously Sample.ascendingBase64
  obtain ⟨_, _, _, roundTrips⟩ := signatures_read_unambiguously Sample.ascendingDigits
  exact ⟨long, written, spells, (tags _ long).mpr (.inl written), apart _ _ long written,
    (roundTrips _ long).2.2 _ spells⟩

end Admission.Webhook
