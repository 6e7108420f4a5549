import Mathlib.Data.Option.Basic
import Admission.Proofs.Bearer
import Admission.Proofs.Text.Case

/-!
# Credentials

An authorization value presents a token as the word `bearer`, a space and the token, with spaces
and tabs in front of the word, between the space and the token and behind the token. The value
tells these parts apart (`Credentials.value_injective`). A request has a token exactly when its
first authorization value is printable and presents one, and then it is that token.
-/

namespace Admission.Bearer

open Header (Printable AllPrintable character)

variable {byte : UInt8} {bytes run other rest otherRest scheme : Bytes} {kept : List Char}

/-! ## The grammar -/

/-- Spaces and tabs. -/
def Pads (byte : UInt8) : Prop := byte = 0x20 ∨ byte = 0x09

instance (byte : UInt8) : Decidable (Pads byte) := inferInstanceAs (Decidable (_ ∨ _))

/-- Nothing but spaces and tabs. -/
def AllPads (bytes : Bytes) : Prop := ∀ byte ∈ bytes, Pads byte

instance (bytes : Bytes) : Decidable (AllPads bytes) := List.decidableBAll Pads bytes

/-- Bytes that neither start nor end with a space or a tab. -/
structure Bare (bytes : Bytes) : Prop where
  front : ∀ first ∈ bytes.head?, ¬ Pads first
  back : ∀ last ∈ bytes.getLast?, ¬ Pads last

/-- A byte is a small letter, or the capital of that letter. -/
def EitherCase (byte : UInt8) (letter : Char) : Prop :=
  byte.toNat = letter.toNat ∨ byte.toNat = letter.toUpper.toNat

instance (byte : UInt8) (letter : Char) : Decidable (EitherCase byte letter) :=
  inferInstanceAs (Decidable (_ ∨ _))

/-- Bytes spell a word letter by letter, in any mix of cases. -/
def Spells (bytes : Bytes) (word : String) : Prop := List.Forall₂ EitherCase bytes word.toList

instance (bytes : Bytes) (word : String) : Decidable (Spells bytes word) :=
  inferInstanceAs (Decidable (List.Forall₂ _ _ _))

/-- An authorization value that presents a token, in its parts. -/
@[ext] structure Credentials where
  /-- Spaces and tabs in front of the word. -/
  lead : Bytes
  /-- The word. -/
  scheme : Bytes
  /-- Spaces and tabs behind the space that ends the word. -/
  gap : Bytes
  token : Bytes
  /-- Spaces and tabs behind the token. -/
  tail : Bytes
  leadPads : AllPads lead
  schemeSpells : Spells scheme "bearer"
  gapPads : AllPads gap
  tokenFilled : token ≠ []
  tokenBare : Bare token
  tailPads : AllPads tail

/-- The value that consists of the parts, a space behind the word. -/
def Credentials.value (credentials : Credentials) : Bytes :=
  credentials.lead ++ credentials.scheme ++
    0x20 :: (credentials.gap ++ credentials.token ++ credentials.tail)

/-! ## The parts told apart -/

theorem allSmall_bearer : Text.AllSmall "bearer".toList := by
  decide

/-- What spells the word does so up to the case of letters. -/
theorem spells_iff :
    Spells scheme "bearer" ↔ (scheme.map character).map Char.toLower = "bearer".toList := by
  rw [Text.map_toLower_eq_iff allSmall_bearer, List.forall₂_map_left_iff, Spells]
  simp only [← Char.toNat_inj, Header.toNat_character]
  rfl

/-- The word is spelled in letters. -/
theorem Spells.letter (spells : Spells scheme "bearer") (among : byte ∈ scheme) :
    65 ≤ byte.toNat ∧ byte.toNat ≤ 122 := by
  have lower : (character byte).toLower ∈ "bearer".toList :=
    spells_iff.mp spells ▸ List.mem_map_of_mem (List.mem_map_of_mem among)
  have bounds := allSmall_bearer _ lower
  rw [Text.IsSmall, Text.toNat_toLower, Header.toNat_character] at bounds
  split at bounds <;> omega

theorem Spells.not_pads (spells : Spells scheme "bearer") (among : byte ∈ scheme) :
    ¬ Pads byte := by
  have letter := spells.letter among
  rintro (rfl | rfl) <;> simp at letter

theorem Spells.ne_nil (spells : Spells scheme "bearer") : scheme ≠ [] := by
  rintro rfl
  cases spells

/-- A run of spaces and tabs ends where neither of them follows. -/
theorem pads_append_inj (pads : AllPads run) (otherPads : AllPads other)
    (stops : ∀ first ∈ rest.head?, ¬ Pads first)
    (otherStops : ∀ first ∈ otherRest.head?, ¬ Pads first)
    (same : run ++ rest = other ++ otherRest) : run = other ∧ rest = otherRest := by
  rcases List.append_eq_append_iff.mp same with ⟨more, rfl, rfl⟩ | ⟨more, rfl, rfl⟩
  · cases more with
    | nil => simp
    | cons byte more => exact absurd (otherPads byte (by simp)) (stops byte rfl)
  · cases more with
    | nil => simp
    | cons byte more => exact absurd (pads byte (by simp)) (otherStops byte rfl)

namespace Credentials

theorem front_scheme (credentials : Credentials) (rest : Bytes) :
    ∀ first ∈ (credentials.scheme ++ rest).head?, ¬ Pads first := by
  intro first found
  rw [List.head?_append_of_ne_nil _ credentials.schemeSpells.ne_nil] at found
  exact credentials.schemeSpells.not_pads (List.mem_of_mem_head? found)

theorem front_token (credentials : Credentials) (rest : Bytes) :
    ∀ first ∈ (credentials.token ++ rest).head?, ¬ Pads first := by
  intro first found
  rw [List.head?_append_of_ne_nil _ credentials.tokenFilled] at found
  exact credentials.tokenBare.front first found

theorem mem_value (credentials : Credentials)
    (among : byte ∈ credentials.gap ++ credentials.token) : byte ∈ credentials.value :=
  List.mem_append_right _ (List.mem_cons_of_mem _ (List.mem_append_left _ among))

/-- What stands between the blanks at the ends of a value. -/
theorem bare_inner (credentials : Credentials) :
    Bare (credentials.scheme ++ 0x20 :: (credentials.gap ++ credentials.token)) where
  front := credentials.front_scheme _
  back := by
    intro last found
    rw [← List.cons_append, ← List.append_assoc,
      List.getLast?_append_of_ne_nil _ credentials.tokenFilled] at found
    exact credentials.tokenBare.back last found

/-- A value has its parts in one way only. -/
theorem value_injective : Function.Injective value := by
  intro first second same
  rw [value, value, List.append_assoc, List.append_assoc second.lead] at same
  obtain ⟨lead, fromScheme⟩ := pads_append_inj first.leadPads second.leadPads
    (first.front_scheme _) (second.front_scheme _) same
  have long : first.scheme.length = second.scheme.length := by
    rw [first.schemeSpells.length_eq, second.schemeSpells.length_eq]
  obtain ⟨scheme, fromSpace⟩ := List.append_inj fromScheme long
  have fromGap := (List.cons.inj fromSpace).2
  rw [List.append_assoc, List.append_assoc second.gap] at fromGap
  obtain ⟨gap, fromToken⟩ := pads_append_inj first.gapPads second.gapPads
    (first.front_token _) (second.front_token _) fromGap
  -- The end of the token is where the run of spaces and tabs begins, read from behind.
  have backwards := congrArg List.reverse fromToken
  rw [List.reverse_append, List.reverse_append] at backwards
  obtain ⟨tail, token⟩ := pads_append_inj
    (fun byte among => first.tailPads byte (List.mem_reverse.mp among))
    (fun byte among => second.tailPads byte (List.mem_reverse.mp among))
    (by rw [List.head?_reverse]; exact first.tokenBare.back)
    (by rw [List.head?_reverse]; exact second.tokenBare.back) backwards
  exact Credentials.ext lead scheme gap (List.reverse_inj.mp token) (List.reverse_inj.mp tail)

end Credentials

/-! ## Blanks of readable values -/

/-- Spaces and tabs are the blanks among printable bytes. -/
theorem isBlank_character_iff (printable : Printable byte) :
    Text.isBlank (character byte) = true ↔ Pads byte := by
  simp only [Printable, UInt8.le_iff_toNat_le, ← UInt8.toNat_inj, UInt8.reduceToNat] at printable
  simp only [Text.isBlank, Text.inRanges, Text.blankRanges, List.any_cons, List.any_nil,
    Header.toNat_character, Pads, ← UInt8.toNat_inj, UInt8.reduceToNat, Bool.or_false,
    Bool.or_eq_true, Bool.and_eq_true, decide_eq_true_eq]
  omega

theorem forall_isBlank_iff (printable : AllPrintable bytes) :
    (∀ symbol ∈ bytes.map character, Text.isBlank symbol = true) ↔ AllPads bytes := by
  rw [List.forall_mem_map]
  exact forall₂_congr fun byte among => isBlank_character_iff (printable byte among)

theorem trimmed_characters_iff (printable : AllPrintable bytes) :
    Text.Trimmed (bytes.map character) ↔ Bare bytes := by
  have filled (byte : UInt8) (among : byte ∈ bytes) :
      Text.isBlank (character byte) = false ↔ ¬ Pads byte := by
    rw [← Bool.not_eq_true, isBlank_character_iff (printable byte among)]
  have front : (∀ first ∈ (bytes.map character).head?, Text.isBlank first = false) ↔
      ∀ first ∈ bytes.head?, ¬ Pads first := by
    rw [List.head?_map, Option.forall_mem_map]
    exact forall₂_congr fun first found => filled first (List.mem_of_mem_head? found)
  have back : (∀ last ∈ (bytes.map character).getLast?, Text.isBlank last = false) ↔
      ∀ last ∈ bytes.getLast?, ¬ Pads last := by
    rw [List.getLast?_map, Option.forall_mem_map]
    exact forall₂_congr fun last found => filled last (List.mem_of_mem_getLast? found)
  exact ⟨fun trimmed => ⟨front.mp trimmed.front, back.mp trimmed.back⟩,
    fun bare => ⟨front.mpr bare.front, back.mpr bare.back⟩⟩

/-- Trimming a readable value takes the spaces and tabs off both its ends. -/
theorem trimSymbols_characters_iff (printable : AllPrintable bytes) :
    Text.trimSymbols (bytes.map character) = kept ↔
      ∃ lead inner tail, bytes = lead ++ inner ++ tail ∧ inner.map character = kept ∧
        Bare inner ∧ AllPads lead ∧ AllPads tail := by
  rw [Text.trimSymbols_eq_iff]
  constructor
  · rintro ⟨trimmed, _, _, shape, blankLead, blankTail⟩
    obtain ⟨_, tail, rfl, frontShape, rfl⟩ := List.map_eq_append_iff.mp shape
    obtain ⟨lead, inner, rfl, rfl, rfl⟩ := List.map_eq_append_iff.mp frontShape
    rw [Header.allPrintable_append_iff, Header.allPrintable_append_iff] at printable
    exact ⟨lead, inner, tail, rfl, rfl, (trimmed_characters_iff printable.1.2).mp trimmed,
      (forall_isBlank_iff printable.1.1).mp blankLead,
      (forall_isBlank_iff printable.2).mp blankTail⟩
  · rintro ⟨lead, inner, tail, rfl, rfl, bare, leadPads, tailPads⟩
    rw [Header.allPrintable_append_iff, Header.allPrintable_append_iff] at printable
    exact ⟨(trimmed_characters_iff printable.1.2).mpr bare, _, _, by simp only [List.map_append],
      (forall_isBlank_iff printable.1.1).mpr leadPads,
      (forall_isBlank_iff printable.2).mpr tailPads⟩

/-! ## Tokens -/

theorem sameIgnoringCase_bearer_iff :
    Text.sameIgnoringCase (String.ofList (scheme.map character)) "bearer" = true ↔
      Spells scheme "bearer" := by
  have lowered : "bearer".toList.map Char.toLower = "bearer".toList := by decide
  rw [Text.sameIgnoringCase, beq_iff_eq, Text.lowerAscii, Text.lowerAscii, String.ofList_inj,
    String.toList_ofList, lowered, spells_iff]

theorem character_eq_space_iff : character byte = ' ' ↔ byte = 0x20 := by
  rw [← Char.toNat_inj, Header.toNat_character, ← UInt8.toNat_inj]
  rfl

/-- The parts of a printable value give its token back. -/
theorem Credentials.ofValue?_value (credentials : Credentials)
    (printable : AllPrintable credentials.value) :
    ofValue? (credentials.value.map character) =
      some (String.ofList (credentials.token.map character)) := by
  have inside : AllPrintable (credentials.gap ++ credentials.token) := fun byte among =>
    printable byte (credentials.mem_value among)
  have trimmed : Text.trimSymbols (credentials.value.map character) =
      credentials.scheme.map character ++
        ' ' :: (credentials.gap ++ credentials.token).map character :=
    (trimSymbols_characters_iff printable).mpr
      ⟨credentials.lead, _, credentials.tail, by simp [value],
        by rw [List.map_append, List.map_cons, character_eq_space_iff.mpr rfl],
        credentials.bare_inner, credentials.leadPads, credentials.tailPads⟩
  have absent : ' ' ∉ credentials.scheme.map character := by
    intro space
    obtain ⟨byte, among, spaced⟩ := List.mem_map.mp space
    exact credentials.schemeSpells.not_pads among (.inl (character_eq_space_iff.mp spaced))
  refine ofValue?_eq_some_iff.mpr ⟨_, _, trimmed, absent,
    sameIgnoringCase_bearer_iff.mpr credentials.schemeSpells, ?_, ?_⟩
  · rw [String.toList_ofList]
    exact (trimSymbols_characters_iff inside).mpr
      ⟨credentials.gap, credentials.token, [], by rw [List.append_nil], rfl,
        credentials.tokenBare, credentials.gapPads, List.forall_mem_nil _⟩
  · rw [String.toList_ofList, ne_eq, List.map_eq_nil_iff]
    exact credentials.tokenFilled

/-- A printable value that has a token consists of parts, and the token is one of them. -/
theorem exists_credentials (printable : AllPrintable bytes) {token : String}
    (found : ofValue? (bytes.map character) = some token) :
    ∃ credentials : Credentials, credentials.value = bytes ∧
      credentials.token.map character = token.toList := by
  obtain ⟨_, _, trimmed, -, same, inner, filled⟩ := ofValue?_eq_some_iff.mp found
  obtain ⟨lead, _, tail, rfl, shape, -, leadPads, tailPads⟩ :=
    (trimSymbols_characters_iff printable).mp trimmed
  obtain ⟨scheme, _, rfl, rfl, restShape⟩ := List.map_eq_append_iff.mp shape
  obtain ⟨space, rest, rfl, spaced, rfl⟩ := List.map_eq_cons_iff.mp restShape
  obtain rfl := character_eq_space_iff.mp spaced
  have printableRest : AllPrintable rest := fun byte among =>
    printable byte (by simp [among])
  obtain ⟨gap, spelled, rear, rfl, written, bare, gapPads, rearPads⟩ :=
    (trimSymbols_characters_iff printableRest).mp inner
  have spelledFilled : spelled ≠ [] := by
    rintro rfl
    exact filled written.symm
  refine ⟨⟨lead, scheme, gap, spelled, rear ++ tail, leadPads,
    sameIgnoringCase_bearer_iff.mp same, gapPads, spelledFilled, bare,
    List.forall_mem_append.mpr ⟨rearPads, tailPads⟩⟩, ?_, written⟩
  simp [Credentials.value]

/-- A request has a token exactly when its first authorization value is printable and presents
that token: spaces and tabs, the word `bearer` in any mix of cases, a space, spaces and tabs, the
token, which neither starts nor ends with any of them, and spaces and tabs. No value presents two
tokens, nor one token in two ways. -/
theorem credentials_read_unambiguously (headers : List Header) :
    (∀ token : Bytes, (token? headers).map Bytes.ofText = some token ↔
        ∃ credentials : Credentials,
          Header.first? headers "authorization" = some credentials.value ∧
            AllPrintable credentials.value ∧ credentials.token = token) ∧
      Function.Injective Credentials.value := by
  refine ⟨fun token => ?_, Credentials.value_injective⟩
  simp only [Option.map_eq_some_iff, token?_eq_some_iff]
  have spelled (credentials : Credentials)
      (printable : AllPrintable credentials.value) :
      Bytes.ofText (String.ofList (credentials.token.map character)) = credentials.token :=
    Header.ofText_characters fun byte among =>
      printable byte (credentials.mem_value (List.mem_append_right _ among))
  constructor
  · rintro ⟨text, ⟨value, first, printable, found⟩, rfl⟩
    obtain ⟨credentials, rfl, written⟩ := exists_credentials printable found
    refine ⟨credentials, first, printable, ?_⟩
    rw [← spelled credentials printable, written, String.ofList_toList]
  · rintro ⟨credentials, first, printable, rfl⟩
    exact ⟨_, ⟨_, first, printable, credentials.ofValue?_value printable⟩,
      spelled credentials printable⟩

-- The space behind the word is trimmed with nothing behind it, and a tab is no space.
example : token? [⟨"authorization", Bytes.ofText "Bearer "⟩] = none := by decide

example : token? [⟨"authorization", Bytes.ofText "Bearer\tabc"⟩] = none := by decide

namespace Sample

/-- Capital and small letters, tabs at every place where blanks may be, and a space in the
token. -/
def credentials : Credentials where
  lead := [0x09, 0x20]
  scheme := Bytes.ofText "bEARER"
  gap := [0x09, 0x20]
  token := [0x61, 0x20, 0x62]
  tail := [0x20, 0x09]
  leadPads := by decide
  schemeSpells := by decide
  gapPads := by decide
  tokenFilled := by decide
  tokenBare := ⟨by simp [Pads], by simp [Pads]⟩
  tailPads := by decide

def headers : List Header := [
  ⟨"Accept", Bytes.ofText "*/*"⟩,
  ⟨"AUTHORIZATION", Bytes.ofText "\t bEARER \t a b \t"⟩,
  ⟨"Authorization", Bytes.ofText "Bearer second"⟩]

end Sample

/-- The token is read between the tabs of the first authorization value, a space inside it kept. -/
theorem first_credentials_read :
    Header.first? Sample.headers "authorization" = some Sample.credentials.value ∧
      (token? Sample.headers).map Bytes.ofText = some (Bytes.ofText "a b") := by
  have first : Header.first? Sample.headers "authorization" = some Sample.credentials.value := by
    decide
  obtain ⟨reads, _⟩ := credentials_read_unambiguously Sample.headers
  exact ⟨first, (reads _).mpr ⟨Sample.credentials, first, by decide, rfl⟩⟩

end Admission.Bearer
