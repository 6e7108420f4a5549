import Mathlib.Tactic.IntervalCases
import Admission.Json.Reader
import Admission.Json.Writer
import Admission.Proofs.Text.Decimal

/-!
# Reading back written values

Reading inverts writing for values without floating-point numbers. A numeral ends
only where the next character shows it, so every statement here is about what is
read from some point of a text to its end.
-/

namespace Admission

/-- The UTF-8 form of a text is read back. -/
theorem Bytes.text?_ofText (text : String) : text? (ofText text) = some text := by
  have whole : (⟨(ofText text).toArray⟩ : ByteArray) = text.toByteArray := by
    simp [ofText]
  rw [text?, whole, String.fromUTF8?, dif_pos text.isValidUTF8]
  rfl

namespace Json

/-- Reading on from a state to the end of the text. -/
def Reading.through (reading : Reading) (symbols : List Char) : Option Json :=
  (symbols.foldlM Reading.step reading).bind Reading.finish

theorem ofText?_eq_through (text : String) : ofText? text = Reading.start.through text.toList := rfl

namespace Reading

variable {reading next : Reading} {frames : List Frame} {expected : Expected}
  {result : Option Json} {symbol : Char} {symbols rest content : List Char} {value : Json}

theorem through_cons :
    reading.through (symbol :: rest) = (reading.step symbol).bind (·.through rest) := by
  simp only [through, List.foldlM_cons]
  cases reading.step symbol <;> rfl

theorem through_step (taken : reading.step symbol = some next) :
    reading.through (symbol :: rest) = next.through rest := by
  rw [through_cons, taken]
  rfl

/-! ## Texts -/

theorem hexValue?_digitChar {digit : Nat} (small : digit < 16) :
    hexValue? digit.digitChar = some digit := by
  have all : ∀ digit ∈ List.range 16, hexValue? digit.digitChar = some digit := by decide
  exact all digit (List.mem_range.mpr small)

/-- A digit of a code unit that is not its last. -/
theorem through_digit {lead : Option Nat} {digits unit digit : Nat} (early : digits ≠ 3)
    (read : hexValue? symbol = some digit) :
    (⟨.unit content lead digits unit, frames, expected, result⟩ : Reading).through
        (symbol :: rest) =
      (⟨.unit content lead (digits + 1) (unit * 16 + digit), frames, expected, result⟩ :
        Reading).through rest := by
  refine through_step ?_
  simp only [step, read, Option.bind_eq_bind, Option.bind_some, if_neg early]

/-- The last digit of a code unit that is no half of a pair. -/
theorem through_last_digit {unit digit : Nat} (read : hexValue? symbol = some digit)
    (plain : unit * 16 + digit < 0xd800) :
    (⟨.unit content none 3 unit, frames, expected, result⟩ : Reading).through (symbol :: rest) =
      (⟨.text (Char.ofNat (unit * 16 + digit) :: content), frames, expected, result⟩ :
        Reading).through rest := by
  have noLead : ¬ (0xd800 ≤ unit * 16 + digit ∧ unit * 16 + digit < 0xdc00) := by omega
  have noTrail : ¬ (0xdc00 ≤ unit * 16 + digit ∧ unit * 16 + digit < 0xe000) := by omega
  refine through_step ?_
  simp only [step, read, Option.bind_eq_bind, Option.bind_some, if_true, acceptUnit,
    if_neg noLead, if_neg noTrail]

/-- A control character is read back from its code unit. -/
theorem through_unit (control : symbol.toNat < 0x20) :
    (⟨.text content, frames, expected, result⟩ : Reading).through
        ('\\' :: 'u' :: '0' :: '0' :: (Nat.toDigits 16 (symbol.toNat / 16) ++
          Nat.toDigits 16 (symbol.toNat % 16)) ++ rest) =
      (⟨.text (symbol :: content), frames, expected, result⟩ : Reading).through rest := by
  have zero : hexValue? '0' = some 0 := by decide
  have high : hexValue? (symbol.toNat / 16).digitChar = some (symbol.toNat / 16) :=
    hexValue?_digitChar (by omega)
  have low : hexValue? (symbol.toNat % 16).digitChar = some (symbol.toNat % 16) :=
    hexValue?_digitChar (by omega)
  have joined : (((0 * 16 + 0) * 16 + 0) * 16 + symbol.toNat / 16) * 16 + symbol.toNat % 16 =
      symbol.toNat := by omega
  have escaped : (⟨.text content, frames, expected, result⟩ : Reading).step '\\' =
      some ⟨.escape content, frames, expected, result⟩ := rfl
  have begun : (⟨.escape content, frames, expected, result⟩ : Reading).step 'u' =
      some ⟨.unit content none 0 0, frames, expected, result⟩ := rfl
  rw [Nat.toDigits_of_lt_base (by omega), Nat.toDigits_of_lt_base (by omega)]
  simp only [List.cons_append, List.nil_append]
  rw [through_step escaped, through_step begun, through_digit (by decide) zero,
    through_digit (by decide) zero, through_digit (by decide) high,
    through_last_digit low (by omega), joined, Char.ofNat_toNat]

/-- A character is read back from its form inside a string. -/
theorem through_escape (symbol : Char) :
    (⟨.text content, frames, expected, result⟩ : Reading).through (escape symbol ++ rest) =
      (⟨.text (symbol :: content), frames, expected, result⟩ : Reading).through rest := by
  unfold escape
  split
  · simp [through_cons, step, escaped?]
  · simp [through_cons, step, escaped?]
  · simp [through_cons, step, escaped?]
  · simp [through_cons, step, escaped?]
  · simp [through_cons, step, escaped?]
  · rename_i quote backslash _ _ _
    simp only
    split
    · rename_i backspace
      have same : symbol = Char.ofNat 8 := by rw [← backspace, Char.ofNat_toNat]
      simp [through_cons, step, escaped?, same]
    · split
      · rename_i feed
        have same : symbol = Char.ofNat 12 := by rw [← feed, Char.ofNat_toNat]
        simp [through_cons, step, escaped?, same]
      · split
        · exact through_unit ‹_›
        · rename_i plain
          have quote : symbol ≠ '"' := fun same => quote same
          have backslash : symbol ≠ '\\' := fun same => backslash same
          simp [through_cons, step, quote, backslash, plain]

/-- The inside of a string is read back. -/
theorem through_escapes :
    (⟨.text content, frames, expected, result⟩ : Reading).through
        (symbols.flatMap escape ++ '"' :: rest) =
      (giveText ⟨.text (symbols.reverse ++ content), frames, expected, result⟩
        (symbols.reverse ++ content)).bind (·.through rest) := by
  induction symbols generalizing content with
  | nil => simp [through_cons, step]
  | cons symbol symbols inductionHypothesis =>
      rw [List.flatMap_cons, List.append_assoc, through_escape, inductionHypothesis]
      simp

/-- A written string is read back where a value or a name may stand. -/
theorem through_writeText (text : String)
    (place : (∃ closable, expected = .value closable) ∨ ∃ closable, expected = .name closable) :
    (⟨.gap, frames, expected, result⟩ : Reading).through ((writeText text).toList ++ rest) =
      (giveText ⟨.gap, frames, expected, result⟩ text.toList.reverse).bind (·.through rest) := by
  have opened : (⟨.gap, frames, expected, result⟩ : Reading).step '"' =
      some ⟨.text [], frames, expected, result⟩ := by
    rcases place with ⟨closable, rfl⟩ | ⟨closable, rfl⟩ <;> rfl
  have spelled : (writeText text).toList ++ rest =
      '"' :: (text.toList.flatMap escape ++ '"' :: rest) := by
    simp [writeText]
  rw [spelled, through_step opened, through_escapes, List.append_nil]
  rcases place with ⟨closable, rfl⟩ | ⟨closable, rfl⟩
  · simp only [giveText, give]
  · rcases frames with _ | ⟨_ | _ | _, _⟩ <;> rfl

/-! ## Numerals -/

/-- What may follow a value: a comma, a closing bracket, or the end. -/
def Separated (rest : List Char) : Prop :=
  ∀ symbol ∈ rest.head?, symbol = ',' ∨ symbol = ']' ∨ symbol = '}'

/-- Giving a value does not depend on the lexeme before it. -/
theorem give_lexeme (lexeme : Lexeme) :
    give ⟨lexeme, frames, expected, result⟩ value = give ⟨.gap, frames, expected, result⟩ value := by
  cases expected <;> rfl

/-- A value that was given leaves no lexeme behind. -/
theorem gap_of_give (given : reading.give value = some next) : next.lexeme = .gap := by
  unfold give at given
  split at given
  · split at given <;> cases given <;> rfl
  · cases given

/-- A numeral of whole digits, last first. -/
def numeralOf (negative : Bool) (phase : Numeral.Phase) (digits : List Char) : Numeral :=
  ⟨phase, negative, digits, [], false, [], false⟩

/-- A numeral is given where something else follows it. -/
theorem through_numeral {negative : Bool} {phase : Numeral.Phase} {digits : List Char}
    {number : Number} (complete : phase = .zero ∨ phase = .whole)
    (denoted : (numeralOf negative phase digits).number? = some number)
    (separated : Separated rest) :
    (⟨.numeral (numeralOf negative phase digits), frames, expected, result⟩ : Reading).through
        rest =
      (give ⟨.gap, frames, expected, result⟩ (.number number)).bind (·.through rest) := by
  cases rest with
  | nil =>
      simp only [through, List.foldlM_nil, finish, denoted, Option.pure_def, Option.bind_some,
        Option.bind_eq_bind, give_lexeme]
      cases given : give ⟨.gap, frames, expected, result⟩ (.number number) with
      | none => rfl
      | some next => simp [gap_of_give given]
  | cons symbol rest =>
      have ends : (numeralOf negative phase digits).push? symbol = none := by
        rcases complete with rfl | rfl <;>
          rcases separated symbol rfl with rfl | rfl | rfl <;> rfl
      simp only [through_cons, step, ends, denoted, Option.bind_some, Option.bind_eq_bind,
        give_lexeme]
      cases given : give ⟨.gap, frames, expected, result⟩ (.number number) with
      | none => rfl
      | some next => simp [gap_of_give given]

/-- Digits after the first only make a numeral longer. -/
theorem through_digits {negative : Bool} {digits read : List Char}
    (all : ∀ symbol ∈ digits, symbol.isDigit = true) :
    (⟨.numeral (numeralOf negative .whole read), frames, expected, result⟩ : Reading).through
        (digits ++ rest) =
      (⟨.numeral (numeralOf negative .whole (digits.reverse ++ read)), frames, expected, result⟩ :
        Reading).through rest := by
  induction digits generalizing read with
  | nil => rfl
  | cons symbol digits inductionHypothesis =>
      have digit : Decimal.isDigit symbol = true := all symbol List.mem_cons_self
      have longer : (⟨.numeral (numeralOf negative .whole read), frames, expected, result⟩ :
          Reading).step symbol =
            some ⟨.numeral (numeralOf negative .whole (symbol :: read)), frames, expected,
              result⟩ := by
        simp [step, numeralOf, Numeral.push?, digit]
      rw [List.cons_append, through_step longer,
        inductionHypothesis fun other member => all other (List.mem_cons_of_mem _ member)]
      simp

/-- The numeral of a number starts with a digit, and only that of zero with a zero. -/
theorem toDigits_eq_cons (number : Nat) :
    ∃ digit others, digit < 10 ∧ Nat.toDigits 10 number = digit.digitChar :: others ∧
      (0 < number → 0 < digit) := by
  induction number using Nat.strongRecOn with
  | ind number inductionHypothesis =>
      rw [Nat.toDigits_eq_if (by decide)]
      split
      · exact ⟨number, [], ‹_›, rfl, id⟩
      · obtain ⟨digit, others, small, front, positive⟩ :=
          inductionHypothesis (number / 10) (by omega)
        exact ⟨digit, others ++ _, small, by rw [front]; rfl, fun _ => positive (by omega)⟩

/-- The number that the digits of a number denote, after a sign. -/
theorem number?_toDigits {negative : Bool} {phase : Numeral.Phase} {size : Nat}
    (complete : phase = .zero ∨ phase = .whole)
    (fits : if negative then 0 < size ∧ size ≤ Nat.pow 2 63 else size < Nat.pow 2 64) :
    (numeralOf negative phase (Nat.toDigits 10 size).reverse).number? =
      some (.integer (if negative then -size else size)) := by
  have spelled : Decimal.value (Nat.toDigits 10 size) = size := by
    rw [Decimal.value_eq_ofDigitChars, Nat.ofDigitChars_ten_toDigits]
  cases negative with
  | false =>
      simp only [Bool.false_eq_true, if_false] at fits
      rcases complete with rfl | rfl <;>
        simp [numeralOf, Numeral.number?, spelled, fits]
  | true =>
      simp only [if_true] at fits
      rcases complete with rfl | rfl <;>
        simp [numeralOf, Numeral.number?, spelled, fits.2, Nat.ne_of_gt fits.1]

/-- The digits of a number are read up to the end of the numeral. -/
theorem through_toDigits (negative : Bool) (size : Nat) (frames : List Frame)
    (expected : Expected) (result : Option Json) (rest : List Char) :
    ∃ phase, (phase = .zero ∨ phase = .whole) ∧
      (⟨.numeral (.start negative), frames, expected, result⟩ : Reading).through
          (Nat.toDigits 10 size ++ rest) =
        (⟨.numeral (numeralOf negative phase (Nat.toDigits 10 size).reverse), frames, expected,
          result⟩ : Reading).through rest := by
  rcases Nat.eq_zero_or_pos size with rfl | positive
  · exact ⟨.zero, .inl rfl, through_step rfl⟩
  · obtain ⟨digit, others, small, front, nonzero⟩ := toDigits_eq_cons size
    have begins : (⟨.numeral (.start negative), frames, expected, result⟩ : Reading).step
        digit.digitChar =
          some ⟨.numeral (numeralOf negative .whole [digit.digitChar]), frames, expected,
            result⟩ := by
      have positive := nonzero positive
      interval_cases digit <;> rfl
    have all : ∀ symbol ∈ others, symbol.isDigit = true := fun symbol member =>
      Nat.isDigit_of_mem_toDigits (by decide) (by decide)
        (front ▸ List.mem_cons_of_mem _ member)
    refine ⟨.whole, .inr rfl, ?_⟩
    rw [front, List.cons_append, through_step begins, through_digits all, List.reverse_cons]

/-- A numeral is read back up to where something else follows it. -/
theorem through_start (negative : Bool) {size : Nat}
    (fits : if negative then 0 < size ∧ size ≤ Nat.pow 2 63 else size < Nat.pow 2 64)
    (separated : Separated rest) :
    (⟨.numeral (.start negative), frames, expected, result⟩ : Reading).through
        (Nat.toDigits 10 size ++ rest) =
      (give ⟨.gap, frames, expected, result⟩
        (.number (.integer (if negative then -size else size)))).bind (·.through rest) := by
  obtain ⟨phase, complete, digits⟩ :=
    through_toDigits negative size frames expected result rest
  rw [digits, through_numeral complete (number?_toDigits complete fits) separated]

/-- The whole numbers of 64 bits, signed or unsigned. -/
def Fits (value : Int) : Prop := -(2 ^ 63) ≤ value ∧ value < 2 ^ 64

instance (value : Int) : Decidable (Fits value) := inferInstanceAs (Decidable (_ ∧ _))

/-- A written whole number is read back. -/
theorem through_integer {value : Int} (fits : Fits value) (separated : Separated rest) :
    (⟨.gap, frames, expected, result⟩ : Reading).through ((toString value).toList ++ rest) =
      (give ⟨.gap, frames, expected, result⟩ (.number (.integer value))).bind (·.through rest) := by
  obtain ⟨lower, upper⟩ := fits
  cases value with
  | ofNat size =>
      have spelled : (toString (Int.ofNat size)).toList = Nat.toDigits 10 size := by
        change (toString size).toList = _
        rw [Nat.toString_eq_ofList_toDigits, String.toList_ofList]
      have begun : (⟨.gap, frames, expected, result⟩ : Reading).through
          (Nat.toDigits 10 size ++ rest) =
            (⟨.numeral (.start false), frames, expected, result⟩ : Reading).through
              (Nat.toDigits 10 size ++ rest) := by
        obtain ⟨digit, others, small, front, _⟩ := toDigits_eq_cons size
        rw [front, List.cons_append, through_cons, through_cons]
        interval_cases digit <;> rfl
      have bound : size < Nat.pow 2 64 := by
        change size < 2 ^ 64
        simp only [Int.ofNat_eq_natCast] at upper
        omega
      rw [spelled, begun, through_start false bound separated]
      rfl
  | negSucc size =>
      have spelled : (toString (Int.negSucc size)).toList = '-' :: Nat.toDigits 10 (size + 1) := by
        change ("-" ++ toString (size + 1)).toList = _
        rw [Nat.toString_eq_ofList_toDigits, String.toList_append]
        exact congrArg ('-' :: ·) String.toList_ofList
      have bound : 0 < size + 1 ∧ size + 1 ≤ Nat.pow 2 63 := by
        change 0 < size + 1 ∧ size + 1 ≤ 2 ^ 63
        omega
      rw [spelled, List.cons_append, through_step rfl, through_start true bound separated]
      rfl

/-! ## Words -/

/-- The rest of a word is read, and its value given. -/
theorem through_letters (letter : Char) (letters : List Char) :
    (⟨.word (letter :: letters) value, frames, expected, result⟩ : Reading).through
        (letter :: letters ++ rest) =
      (give ⟨.gap, frames, expected, result⟩ value).bind (·.through rest) := by
  induction letters generalizing letter with
  | nil =>
      rw [List.cons_append, List.nil_append, through_cons, ← give_lexeme (.word [letter] value)]
      simp [step]
  | cons next letters inductionHypothesis =>
      rw [List.cons_append, through_cons, ← inductionHypothesis next]
      simp [step]

/-- A word is read back from its first letter on. -/
theorem through_word {first letter : Char} {letters : List Char}
    (opens : (⟨.gap, frames, expected, result⟩ : Reading).step first =
      some ⟨.word (letter :: letters) value, frames, expected, result⟩) :
    (⟨.gap, frames, expected, result⟩ : Reading).through (first :: letter :: letters ++ rest) =
      (give ⟨.gap, frames, expected, result⟩ value).bind (·.through rest) := by
  rw [List.cons_append, through_step opens, through_letters]

end Reading

/-! ## Values -/

mutual

/-- Whether a value is read back from its written form where at most `room`
containers may still be opened inside each other. -/
def legible (room : Nat) : Json → Bool
  | .null => true
  | .bool _ => true
  | .number (.integer value) => Reading.Fits value
  | .number (.real _) => false
  | .text _ => true
  | .array items => 0 < room && legibleItems (room - 1) items
  | .object members =>
      0 < room && (members.map (·.1)).Nodup && legibleMembers (room - 1) members

/-- Whether all items are read back. -/
def legibleItems (room : Nat) : List Json → Bool
  | [] => true
  | item :: rest => legible room item && legibleItems room rest

/-- Whether the values of all members are read back. -/
def legibleMembers (room : Nat) : List (String × Json) → Bool
  | [] => true
  | (_, value) :: rest => legible room value && legibleMembers room rest

end

/-- A written member. -/
def writeMember (member : String × Json) : String := writeText member.1 ++ ":" ++ write member.2

/-- Members without repetition are written one by one. -/
theorem writeMembers_eq_map {members : List (String × Json)}
    (distinct : (members.map (·.1)).Nodup) :
    writeMembers members = members.map fun member => (member.1, write member.2) := by
  induction members with
  | nil => rfl
  | cons member members inductionHypothesis =>
      obtain ⟨name, value⟩ := member
      rw [List.map_cons, List.nodup_cons] at distinct
      have fresh : ((writeMembers members).any fun other => other.1 == name) = false := by
        rw [inductionHypothesis distinct.2, List.any_eq_false]
        rintro _ written
        obtain ⟨other, member, rfl⟩ := List.mem_map.mp written
        simp only [beq_iff_eq]
        rintro rfl
        exact distinct.1 (List.mem_map.mpr ⟨other, member, rfl⟩)
      simp only [writeMembers, fresh, Bool.false_eq_true, if_false, List.map_cons]
      rw [inductionHypothesis distinct.2]

theorem write_object {members : List (String × Json)}
    (distinct : (members.map (·.1)).Nodup) :
    write (.object members) = "\x7b" ++ joinParts (members.map writeMember) ++ "\x7d" := by
  rw [write, writeMembers_eq_map distinct, List.map_map]
  rfl

/-- Parts that are written after a first one, each behind a comma. -/
def continued (parts : List String) : List Char := parts.flatMap fun part => ',' :: part.toList

/-- Parts between commas, written from the first one on. -/
theorem toList_joinParts (first : String) (others : List String) :
    (joinParts (first :: others)).toList = first.toList ++ continued others := by
  induction others generalizing first with
  | nil => simp [joinParts, continued]
  | cons next others inductionHypothesis =>
      have joined : joinParts (first :: next :: others) =
          first ++ "," ++ joinParts (next :: others) := String.intercalate_cons_cons
      rw [joined, String.toList_append, String.toList_append, inductionHypothesis]
      simp [continued]

namespace Reading

variable {frames : List Frame} {closable : Bool} {result : Option Json} {rest : List Char}

/-- What follows an item or a member is a comma or a closing bracket. -/
theorem separated_continued {closing : Char} (parts : List String)
    (closes : closing = ']' ∨ closing = '}') :
    Separated (continued parts ++ closing :: rest) := by
  cases parts with
  | nil =>
      rintro _ ⟨rfl⟩
      exact .inr closes
  | cons part parts =>
      rintro _ ⟨rfl⟩
      exact .inl rfl

/-- A bracket opens an array where there is room for one more container. -/
theorem through_open_array (room : frames.length < depthLimit) :
    (⟨.gap, frames, .value closable, result⟩ : Reading).through ('[' :: rest) =
      (⟨.gap, .array [] :: frames, .value true, result⟩ : Reading).through rest := by
  refine through_step ?_
  simp [step, between, enter, room]

/-- A brace opens an object where there is room for one more container. -/
theorem through_open_object (room : frames.length < depthLimit) :
    (⟨.gap, frames, .value closable, result⟩ : Reading).through ('{' :: rest) =
      (⟨.gap, .object [] :: frames, .name true, result⟩ : Reading).through rest := by
  refine through_step ?_
  simp [step, between, enter, room]

/-- A written name is read back, with the colon behind it. -/
theorem through_name {members : List (String × Json)} (name : String) :
    (⟨.gap, .object members :: frames, .name closable, result⟩ : Reading).through
        ((writeText name).toList ++ ':' :: rest) =
      (⟨.gap, .member members name :: frames, .value false, result⟩ : Reading).through rest := by
  rw [through_writeText name (.inr ⟨_, rfl⟩)]
  simp [giveText, through_cons, step, between]

end Reading

mutual

/-- A written value is read back where a value may stand. -/
theorem through_write : ∀ (value : Json) (room : Nat) (frames : List Frame) (closable : Bool)
    (result : Option Json) (rest : List Char),
    legible room value = true → frames.length + room ≤ Reading.depthLimit →
      Reading.Separated rest →
        (⟨.gap, frames, .value closable, result⟩ : Reading).through ((write value).toList ++ rest) =
          (Reading.give ⟨.gap, frames, .value closable, result⟩ value).bind (·.through rest)
  | .null, _, _, _, _, _, _, _, _ => Reading.through_word rfl
  | .bool true, _, _, _, _, _, _, _, _ => Reading.through_word rfl
  | .bool false, _, _, _, _, _, _, _, _ => Reading.through_word rfl
  | .number (.integer _), _, _, _, _, _, fits, _, separated =>
      Reading.through_integer (of_decide_eq_true fits) separated
  | .text content, _, _, _, _, _, _, _, _ => by
      rw [write, Reading.through_writeText content (.inl ⟨_, rfl⟩)]
      simp [Reading.giveText]
  | .array [], _, _, _, _, _, legibility, deep, _ => by
      simp only [legible, legibleItems, Bool.and_true, decide_eq_true_eq] at legibility
      exact (Reading.through_open_array (by omega)).trans Reading.through_cons
  | .array (first :: others), room, frames, _, result, rest, legibility, deep, _ => by
      simp only [legible, legibleItems, Bool.and_eq_true, decide_eq_true_eq] at legibility
      obtain ⟨positive, firstLegible, othersLegible⟩ := legibility
      have spelled : (write (.array (first :: others))).toList ++ rest =
          '[' :: ((write first).toList ++ (continued (writeItems others) ++ ']' :: rest)) := by
        simp [write, writeItems, toList_joinParts]
      have inside : (Frame.array [] :: frames).length + (room - 1) ≤ Reading.depthLimit := by
        simp only [List.length_cons]
        omega
      rw [spelled, Reading.through_open_array (by omega),
        through_write first (room - 1) _ true result _ firstLegible inside
          (Reading.separated_continued _ (.inl rfl))]
      exact through_items others [first] (room - 1) frames result rest othersLegible (by omega)
  | .object [], _, _, _, _, _, legibility, deep, _ => by
      simp only [legible, legibleMembers, List.map_nil, List.nodup_nil, decide_true, Bool.and_true,
        decide_eq_true_eq] at legibility
      exact (Reading.through_open_object (by omega)).trans Reading.through_cons
  | .object ((name, value) :: others), room, frames, _, result, rest, legibility, deep,
      _ => by
      simp only [legible, legibleMembers, Bool.and_eq_true, decide_eq_true_eq] at legibility
      obtain ⟨⟨positive, distinct⟩, firstLegible, othersLegible⟩ := legibility
      have spelled : (write (.object ((name, value) :: others))).toList ++ rest =
          '{' :: ((writeText name).toList ++ ':' :: ((write value).toList ++
            (continued (others.map writeMember) ++ '}' :: rest))) := by
        simp [write_object distinct, toList_joinParts, writeMember]
      have inside : (Frame.member [] name :: frames).length + (room - 1) ≤ Reading.depthLimit := by
        simp only [List.length_cons]
        omega
      rw [spelled, Reading.through_open_object (by omega), Reading.through_name,
        through_write value (room - 1) _ false result _ firstLegible inside
          (Reading.separated_continued _ (.inr rfl))]
      exact through_members others [(name, value)] (room - 1) frames result rest othersLegible
        (by omega)

/-- The written items of an array after its first ones are read back. -/
theorem through_items : ∀ (items done : List Json) (room : Nat) (frames : List Frame)
    (result : Option Json) (rest : List Char),
    legibleItems room items = true → frames.length + 1 + room ≤ Reading.depthLimit →
      (⟨.gap, .array done :: frames, .more, result⟩ : Reading).through
          (continued (writeItems items) ++ ']' :: rest) =
        (Reading.give ⟨.gap, frames, .value false, result⟩
          (.array (done.reverse ++ items))).bind (·.through rest)
  | [], done, _, _, _, _, _, _ => by
      rw [List.append_nil]
      exact Reading.through_cons
  | item :: items, done, room, frames, result, rest, legibility, deep => by
      simp only [legibleItems, Bool.and_eq_true] at legibility
      have inside : (Frame.array done :: frames).length + room ≤ Reading.depthLimit := by
        simp only [List.length_cons]
        omega
      have spelled : continued (writeItems (item :: items)) ++ ']' :: rest =
          ',' :: ((write item).toList ++ (continued (writeItems items) ++ ']' :: rest)) := by
        simp [writeItems, continued]
      rw [spelled, Reading.through_step rfl,
        through_write item room _ false result _ legibility.1 inside
          (Reading.separated_continued _ (.inl rfl)),
        List.append_cons done.reverse, ← List.reverse_cons]
      exact through_items items (item :: done) room frames result rest legibility.2 deep

/-- The written members of an object after its first ones are read back. -/
theorem through_members : ∀ (members done : List (String × Json)) (room : Nat)
    (frames : List Frame) (result : Option Json) (rest : List Char),
    legibleMembers room members = true → frames.length + 1 + room ≤ Reading.depthLimit →
      (⟨.gap, .object done :: frames, .more, result⟩ : Reading).through
          (continued (members.map writeMember) ++ '}' :: rest) =
        (Reading.give ⟨.gap, frames, .value false, result⟩
          (.object (done.reverse ++ members))).bind (·.through rest)
  | [], done, _, _, _, _, _, _ => by
      rw [List.append_nil]
      exact Reading.through_cons
  | (name, value) :: members, done, room, frames, result, rest, legibility, deep => by
      simp only [legibleMembers, Bool.and_eq_true] at legibility
      have inside : (Frame.member done name :: frames).length + room ≤ Reading.depthLimit := by
        simp only [List.length_cons]
        omega
      have spelled : continued (((name, value) :: members).map writeMember) ++ '}' :: rest =
          ',' :: ((writeText name).toList ++ ':' :: ((write value).toList ++
            (continued (members.map writeMember) ++ '}' :: rest))) := by
        simp [writeMember, continued]
      rw [spelled, Reading.through_step rfl, Reading.through_name,
        through_write value room _ false result _ legibility.1 inside
          (Reading.separated_continued _ (.inr rfl)),
        List.append_cons done.reverse, ← List.reverse_cons]
      exact through_members members ((name, value) :: done) room frames result rest legibility.2
        deep

end

/-- Reading inverts writing. -/
theorem ofText?_write {value : Json} (legibility : legible Reading.depthLimit value = true) :
    ofText? (write value) = some value := by
  have read := through_write value Reading.depthLimit [] false none [] legibility
    (Nat.le_of_eq (Nat.zero_add _)) (by rintro _ ⟨⟩)
  rw [ofText?_eq_through]
  rw [List.append_nil] at read
  exact read

/-- Reading inverts writing also by way of bytes. -/
theorem ofBytes?_write {value : Json} (legibility : legible Reading.depthLimit value = true) :
    ofBytes? (Bytes.ofText (write value)) = some value := by
  rw [ofBytes?, Bytes.text?_ofText]
  exact ofText?_write legibility

end Json
end Admission
