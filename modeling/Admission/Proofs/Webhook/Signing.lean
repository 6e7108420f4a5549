import Mathlib.Data.List.Basic
import Admission.Proofs.Bytes.Base64
import Admission.Proofs.Text.Trimming
import Admission.Proofs.Webhook.Reading

/-!
# Requests as senders sign them

A sender writes timestamp and nonce into their header fields and the signature,
in base64, beside them. `Draft.checks` says that such a request stands every check
up to its signature whenever its timestamp is near the clock.
-/

namespace Admission

namespace Text

/-- Printable ASCII characters other than the blank. -/
def IsPlain (symbol : Char) : Prop := 0x21 ≤ symbol.toNat ∧ symbol.toNat ≤ 0x7e

instance (symbol : Char) : Decidable (IsPlain symbol) := inferInstanceAs (Decidable (_ ∧ _))

/-- Every character is plain. -/
def AllPlain (symbols : List Char) : Prop := ∀ symbol ∈ symbols, IsPlain symbol

instance (symbols : List Char) : Decidable (AllPlain symbols) :=
  List.decidableBAll IsPlain symbols

variable {symbols : List Char} {symbol : Char}

theorem IsPlain.isBlank (plain : IsPlain symbol) : isBlank symbol = false := by
  unfold IsPlain at plain
  simp only [Text.isBlank, inRanges, blankRanges, List.any_cons, List.any_nil, Bool.or_false,
    Bool.or_eq_false_iff, Bool.and_eq_false_iff, decide_eq_false_iff_not]
  omega

/-- A plain character is one byte. -/
theorem IsPlain.octet (plain : IsPlain symbol) : symbol.val.toUInt8.toNat = symbol.toNat := by
  unfold IsPlain at plain
  rw [UInt32.toNat_toUInt8]
  exact Nat.mod_eq_of_lt (by change symbol.toNat < 256; omega)

/-- Plain characters have nothing to trim. -/
theorem trimSymbols_of_plain (plain : AllPlain symbols) : trimSymbols symbols = symbols :=
  trimSymbols_of_trimmed
    ⟨fun _ first => (plain _ (List.mem_of_mem_head? first)).isBlank,
      fun _ last => (plain _ (List.mem_of_mem_getLast? last)).isBlank⟩

end Text

/-- The UTF-8 form of ASCII characters has a byte for each. -/
theorem Bytes.ofText_of_ascii {text : String}
    (ascii : ∀ symbol ∈ text.toList, symbol.toNat ≤ 0x7f) :
    Bytes.ofText text = text.toList.map fun symbol => symbol.val.toUInt8 := by
  have single : ∀ symbol ∈ text.toList,
      String.utf8EncodeChar symbol = [symbol.val.toUInt8] := by
    intro symbol member
    apply String.utf8EncodeChar_eq_singleton
    rw [Char.utf8Size_eq_one_iff, UInt32.le_iff_toNat_le]
    exact ascii symbol member
  rw [Bytes.ofText, String.toUTF8, ← String.utf8Encode_toList, List.utf8Encode,
    List.toList_data_toByteArray, List.flatMap_def, List.map_congr_left single,
    ← List.flatMap_def, ← List.map_eq_flatMap]

/-- The UTF-8 form of plain characters has a byte for each. -/
theorem Bytes.ofText_of_plain {text : String} (plain : Text.AllPlain text.toList) :
    Bytes.ofText text = text.toList.map fun symbol => symbol.val.toUInt8 :=
  Bytes.ofText_of_ascii fun symbol member => le_trans (plain symbol member).2 (by decide)

/-- Every byte of a plain text is readable. -/
theorem Header.readable?_ofText {text : String} (plain : Text.AllPlain text.toList) :
    Header.readable? (Bytes.ofText text) = some text.toList := by
  have readable : ∀ byte ∈ Bytes.ofText text, Header.isReadableByte byte = true := by
    rw [Bytes.ofText_of_plain plain]
    intro byte byteMember
    obtain ⟨symbol, member, rfl⟩ := List.mem_map.mp byteMember
    have bounds := plain symbol member
    unfold Text.IsPlain at bounds
    simp only [Header.isReadableByte, Bool.or_eq_true, Bool.and_eq_true, decide_eq_true_eq,
      UInt8.le_iff_toNat_le, (plain symbol member).octet, UInt8.reduceToNat]
    omega
  rw [Header.readable?, if_pos (List.all_eq_true.mpr readable), Bytes.ofText_of_plain plain,
    List.map_map, Option.some.injEq]
  refine (List.map_congr_left fun symbol member => ?_).trans (List.map_id _)
  rw [Function.comp_apply, (plain symbol member).octet, Char.ofNat_toNat, id]

/-- A plain text reads as itself. -/
theorem Header.readsAs_ofText {text : String} (plain : Text.AllPlain text.toList)
    (nonempty : text.toList ≠ []) : Header.ReadsAs (Bytes.ofText text) text :=
  ⟨text.toList, Header.readable?_ofText plain, Text.trimSymbols_of_plain plain, nonempty⟩

namespace Base64

open Text (IsPlain AllPlain)

theorem isPlain_symbol {variant : Variant} {value : Nat} (small : value < 64) :
    IsPlain (variant.symbol value) := by
  have all : ∀ index ∈ List.range 64, IsPlain (variant.symbol index) := by
    cases variant <;> decide
  exact all value (List.mem_range.mpr small)

/-- Written forms hold printable characters only. -/
theorem allPlain_encode {variant : Variant} (bytes : Bytes) :
    AllPlain (encode variant bytes) :=
  forall_mem_encode (fun _ small => isPlain_symbol small) (fun _ => by decide) bytes

/-- Only the empty sequence has an empty written form. -/
theorem encode_eq_nil_iff {variant : Variant} {bytes : Bytes} :
    encode variant bytes = [] ↔ bytes = [] := by
  match bytes with
  | [] => simp [encode]
  | [_] => simp [encode]
  | [_, _] => simp [encode]
  | _ :: _ :: _ :: _ => simp [encode]

end Base64

namespace Webhook

/-- What a sender writes as its signature is read back as the signature. -/
theorem decodeSignature?_sign (parts : SignedParts) (secret : Bytes) :
    decodeSignature? (parts.sign secret) = some (parts.tag secret) := by
  have length : (parts.tag secret).length = signatureLength := Hmac.length_digest _ _
  have decoded : Base64.decode? .standard (parts.sign secret).toList = some (parts.tag secret) := by
    rw [SignedParts.sign, Base64.text, String.toList_ofList, Base64.decode?_encode]
  simp only [decodeSignature?, decoded, Option.map_some, length, if_true]

/-- A written signature reads as itself. -/
theorem readsAs_sign (parts : SignedParts) (secret : Bytes) :
    Header.ReadsAs (Bytes.ofText (parts.sign secret)) (parts.sign secret) := by
  apply Header.readsAs_ofText
  · rw [SignedParts.sign, Base64.text, String.toList_ofList]
    exact Base64.allPlain_encode _
  · rw [SignedParts.sign, Base64.text, String.toList_ofList, ne_eq, Base64.encode_eq_nil_iff]
    intro empty
    have length : (parts.tag secret).length = 32 := Hmac.length_digest _ _
    rw [empty] at length
    cases length

/-- The three header fields have different names. -/
structure Settings.DistinctHeaders (settings : Settings) : Prop where
  timestamp : Text.sameIgnoringCase settings.signatureHeader settings.timestampHeader = false
  nonce : Text.sameIgnoringCase settings.signatureHeader settings.nonceHeader = false
  timestampNonce : Text.sameIgnoringCase settings.timestampHeader settings.nonceHeader = false

theorem Settings.standard_distinctHeaders : Settings.standard.DistinctHeaders :=
  ⟨by decide, by decide, by decide⟩

/-- A request before it is signed. Timestamp and nonce are given as they are sent
and as they read. -/
structure Draft where
  method : String
  target : String
  timestampValue : Bytes
  rawTimestamp : String
  timestamp : Instant
  nonceValue : Bytes
  nonce : String
  body : Bytes

namespace Draft

variable {draft : Draft} {settings : Settings} {secret : Secret} {asked : Instant}

/-- The parts that the sender signs. -/
def parts (draft : Draft) : SignedParts :=
  ⟨draft.method, Target.path draft.target, draft.rawTimestamp, draft.nonce, draft.body⟩

/-- The request that the sender sends. -/
def request (draft : Draft) (settings : Settings) (secret : Secret) : Request where
  method := draft.method
  target := draft.target
  headers := [
    ⟨settings.signatureHeader, Bytes.ofText (draft.parts.sign secret.bytes)⟩,
    ⟨settings.timestampHeader, draft.timestampValue⟩,
    ⟨settings.nonceHeader, draft.nonceValue⟩]
  body := .complete draft.body

/-- The reading that the sender has in mind. -/
def reading (draft : Draft) (secret : Secret) : Reading :=
  ⟨secret, draft.parts.sign secret.bytes, draft.rawTimestamp, draft.nonce, draft.timestamp,
    draft.body⟩

/-- Timestamp and nonce read as they are meant, and the body is not too long. -/
structure Sendable (draft : Draft) (settings : Settings) : Prop where
  timestampReads : Header.ReadsAs draft.timestampValue draft.rawTimestamp
  timestamp : timestamp? draft.rawTimestamp = some draft.timestamp
  nonceReads : Header.ReadsAs draft.nonceValue draft.nonce
  bodyFits : draft.body.length ≤ settings.maxBodyBytes

/-- A signed request stands every check up to its signature while its timestamp is near. -/
theorem checks (distinct : settings.DistinctHeaders) (sendable : draft.Sendable settings)
    (near : settings.Near asked draft.timestamp) :
    (draft.reading secret).Checks settings asked (draft.request settings secret) where
  signatureField := ⟨_, by simp [Header.first?, request, Text.sameIgnoringCase],
    readsAs_sign draft.parts secret.bytes⟩
  timestampField := ⟨draft.timestampValue, by
    simp only [Header.first?, request, List.find?_cons, distinct.timestamp]
    simp [Text.sameIgnoringCase], sendable.timestampReads⟩
  nonceField := ⟨draft.nonceValue, by
    simp only [Header.first?, request, List.find?_cons, distinct.nonce, distinct.timestampNonce]
    simp [Text.sameIgnoringCase], sendable.nonceReads⟩
  timestamp := sendable.timestamp
  near := near
  bodyEnds := rfl
  bodyFits := by simpa [request, Body.complete, Body.bytes] using sendable.bodyFits
  body := by simp [reading, request, Body.complete, Body.bytes]
  signature := decodeSignature?_sign draft.parts secret.bytes

/-- A request signed at the start of the Unix count. -/
def first : Draft where
  method := "POST"
  target := "/hook"
  timestampValue := Bytes.ofText "0"
  rawTimestamp := "0"
  timestamp := .epoch
  nonceValue := Bytes.ofText "nonce"
  nonce := "nonce"
  body := []

theorem first_sendable : first.Sendable .standard :=
  ⟨Header.readsAs_ofText (by decide) (by decide), by decide,
    Header.readsAs_ofText (by decide) (by decide), by decide⟩

/-- The first draft as a sender with a secret of one byte sends it. Its signature is not computed
here: it is what any program for keyed digests gives. -/
def firstSent : Request where
  method := "POST"
  target := "/hook"
  headers := [
    ⟨"x-signature", Bytes.ofText "ciOS2NjQFCYuswWGv0ZU27W5Zn2ysnX21/91a1OrGDs="⟩,
    ⟨"x-signature-timestamp", Bytes.ofText "0"⟩,
    ⟨"x-signature-nonce", Bytes.ofText "nonce"⟩]
  body := .complete []

/-- The first draft is signed as other programs sign it. -/
theorem request_first : first.request .standard ⟨[1]⟩ = firstSent := by
  have signature : first.parts.sign [1] = "ciOS2NjQFCYuswWGv0ZU27W5Zn2ysnX21/91a1OrGDs=" := by
    decide +kernel
  simp only [request, signature]
  rfl

end Draft
end Webhook
end Admission
