import Admission.Bearer
import Admission.Proofs.Text.Splitting
import Admission.Proofs.Webhook.Signing

/-!
# Requests that carry a token

A readable value is printable ASCII characters and tabs, a byte for each. The token of such a
value is what stands behind the word and the first space of its trimmed text. A token of
printable characters that follows the word `Bearer` in an authorization field is the token of the
request.
-/

namespace Admission

open Text (AllPlain)

namespace Header

variable {value first second : Bytes} {symbols before after : List Char}

/-- Bytes of printable ASCII characters and tabs. -/
def Printable (byte : UInt8) : Prop := (0x20 ≤ byte ∧ byte ≤ 0x7e) ∨ byte = 0x09

instance (byte : UInt8) : Decidable (Printable byte) := inferInstanceAs (Decidable (_ ∨ _))

/-- Every byte is printable or a tab. -/
def AllPrintable (value : Bytes) : Prop := ∀ byte ∈ value, Printable byte

instance (value : Bytes) : Decidable (AllPrintable value) := List.decidableBAll Printable value

theorem allPrintable_append_iff :
    AllPrintable (first ++ second) ↔ AllPrintable first ∧ AllPrintable second :=
  List.forall_mem_append

/-- The character of a readable byte. -/
def character (byte : UInt8) : Char := Char.ofNat byte.toNat

theorem toNat_character (byte : UInt8) : (character byte).toNat = byte.toNat := by
  have valid : byte.toNat.isValidChar := .inl (by have := byte.toNat_lt; omega)
  rw [character, Char.ofNat, dif_pos valid]
  rfl

/-- A value is readable when all its bytes are printable, and then each of them is a character. -/
theorem readable?_eq_some_iff : readable? value = some symbols ↔
    AllPrintable value ∧ value.map character = symbols := by
  have every : value.all isReadableByte = true ↔ AllPrintable value := by
    simp [isReadableByte, AllPrintable, Printable]
  rw [← every, readable?, Option.ite_none_right_eq_some, Option.some.injEq]
  rfl

/-- A readable value is the UTF-8 form of its text. -/
theorem ofText_characters (printable : AllPrintable value) :
    Bytes.ofText (String.ofList (value.map character)) = value := by
  have ascii : ∀ symbol ∈ (String.ofList (value.map character)).toList, symbol.toNat ≤ 0x7f := by
    rw [String.toList_ofList]
    intro _ member
    obtain ⟨byte, among, rfl⟩ := List.mem_map.mp member
    have bounds := printable byte among
    simp only [Printable, UInt8.le_iff_toNat_le, ← UInt8.toNat_inj, UInt8.reduceToNat] at bounds
    rw [toNat_character]
    omega
  have kept (byte : UInt8) : (character byte).val.toUInt8 = byte := by
    rw [← UInt8.toNat_inj, UInt32.toNat_toUInt8, Char.toNat_val, toNat_character]
    exact Nat.mod_eq_of_lt byte.toNat_lt
  rw [Bytes.ofText_of_ascii ascii, String.toList_ofList, List.map_map]
  exact (List.map_congr_left fun byte _ => kept byte).trans (List.map_id value)

/-- Readable values one after the other are readable. -/
theorem readable?_append (readsFirst : readable? first = some before)
    (readsSecond : readable? second = some after) :
    readable? (first ++ second) = some (before ++ after) := by
  rw [readable?_eq_some_iff] at *
  exact ⟨allPrintable_append_iff.mpr ⟨readsFirst.1, readsSecond.1⟩, by
    rw [List.map_append, readsFirst.2, readsSecond.2]⟩

end Header

/-- Blanks inside a text are not trimmed. -/
theorem Text.trimSymbols_between {before after : List Char} (between : List Char)
    (plainBefore : AllPlain before) (plainAfter : AllPlain after) (startsPlain : before ≠ [])
    (endsPlain : after ≠ []) :
    trimSymbols (before ++ between ++ after) = before ++ between ++ after := by
  apply trimSymbols_of_trimmed
  constructor
  · intro first found
    rw [List.append_assoc, List.head?_append_of_ne_nil _ startsPlain] at found
    exact (plainBefore first (List.mem_of_mem_head? found)).isBlank
  · intro last found
    rw [List.getLast?_append_of_ne_nil _ endsPlain] at found
    exact (plainAfter last (List.mem_of_mem_getLast? found)).isBlank

namespace Bearer

/-- A field that carries a token. -/
def field (token : String) : Header :=
  ⟨"authorization", Bytes.ofText "Bearer" ++ 0x20 :: Bytes.ofText token⟩

variable {token : String}

/-- The token of a value is what stands, without surrounding blanks, behind the word and the first
space of its trimmed text. -/
theorem ofValue?_eq_some_iff {value : List Char} : ofValue? value = some token ↔
    ∃ scheme rest, Text.trimSymbols value = scheme ++ ' ' :: rest ∧ ' ' ∉ scheme ∧
      Text.sameIgnoringCase (String.ofList scheme) "bearer" = true ∧
      Text.trimSymbols rest = token.toList ∧ token.toList ≠ [] := by
  simp only [ofValue?, Option.bind_eq_bind, Option.bind_eq_some_iff, Prod.exists,
    Text.splitOnce?_eq_some_iff, Option.ite_none_right_eq_some, Option.some.injEq,
    Bool.not_eq_true', List.isEmpty_eq_false_iff]
  constructor
  · rintro ⟨scheme, rest, ⟨absent, shape⟩, ⟨same, filled⟩, rfl⟩
    rw [String.toList_ofList]
    exact ⟨scheme, rest, shape, absent, same, rfl, filled⟩
  · rintro ⟨scheme, rest, shape, absent, same, inner, filled⟩
    exact ⟨scheme, rest, ⟨absent, shape⟩, ⟨same, inner ▸ filled⟩, by
      rw [inner, String.ofList_toList]⟩

/-- The token of a request is that of its first authorization value, which is printable. -/
theorem token?_eq_some_iff {headers : List Header} : token? headers = some token ↔
    ∃ value, Header.first? headers "authorization" = some value ∧
      Header.AllPrintable value ∧ ofValue? (value.map Header.character) = some token := by
  simp only [token?, Header.firstText?, Option.bind_eq_bind, Option.bind_eq_some_iff,
    Header.readable?_eq_some_iff]
  constructor
  · rintro ⟨_, ⟨value, first, printable, rfl⟩, found⟩
    exact ⟨value, first, printable, found⟩
  · rintro ⟨value, first, printable, found⟩
    exact ⟨_, ⟨value, first, printable, rfl⟩, found⟩

theorem ofValue?_of_plain (plain : AllPlain token.toList) (nonempty : token.toList ≠ []) :
    ofValue? ("Bearer".toList ++ ' ' :: token.toList) = some token := by
  have word : AllPlain "Bearer".toList := by decide
  have trimmed : Text.trimSymbols ("Bearer".toList ++ ' ' :: token.toList) =
      "Bearer".toList ++ ' ' :: token.toList := by
    have kept := Text.trimSymbols_between [' '] word plain (by decide) nonempty
    simpa using kept
  exact ofValue?_eq_some_iff.mpr ⟨_, _, trimmed, by decide, by decide,
    Text.trimSymbols_of_plain plain, nonempty⟩

/-- A request whose first field carries a token of printable characters has that token. -/
theorem token?_of_plain (plain : AllPlain token.toList) (nonempty : token.toList ≠ [])
    (rest : List Header) : token? (field token :: rest) = some token := by
  have value : Header.firstText? (field token :: rest) "authorization" =
      some ("Bearer".toList ++ ' ' :: token.toList) := by
    have same : Text.sameIgnoringCase "authorization" "authorization" = true := by
      simp [Text.sameIgnoringCase]
    have blank : Header.readable? [0x20] = some [' '] := rfl
    have rest : Header.readable? (0x20 :: Bytes.ofText token) = some (' ' :: token.toList) :=
      Header.readable?_append blank (Header.readable?_ofText plain)
    have word : Header.readable? (Bytes.ofText "Bearer") = some "Bearer".toList :=
      Header.readable?_ofText (by decide)
    simp only [Header.firstText?, Header.first?, field, List.find?_cons_of_pos, same,
      Option.map_some, bind, Option.bind_some]
    exact Header.readable?_append word rest
  simp only [token?, value, bind, Option.bind_some, ofValue?_of_plain plain nonempty]

end Bearer
end Admission
