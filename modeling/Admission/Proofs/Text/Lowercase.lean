import Mathlib.Data.List.Basic
import Admission.Proofs.Text.Case
import Admission.Proofs.Text.Trimming
import Admission.Text.Lowercase

/-!
# Lower-case forms

The lower-case form of a text is its own lower-case form. A capital letter is in a run of the
table, and what the runs map to lies outside all runs (`runs_apart`), so that no character of a
lower-case form changes again, wherever it stands (`stable_of_mem_convert`). Nor does a character
become blank.
-/

namespace Admission.Lowercase

open Text (isBlank)

variable {run other : Run} {symbol lower : Char} {code first last : Nat}
  {before symbols : List Char}

/-! ## The table -/

/-- The code point that a run maps one to. -/
def Run.image (run : Run) (code : Nat) : Nat := (code + run.shift).toNat

/-- Whether a run maps to no code point between two others. -/
def Run.avoids (run : Run) (first last : Nat) : Bool :=
  (run.image run.last).blt first || last.blt (run.image run.first)

/-- Whether a run maps to no code point that another one covers: their ranges are apart, or the
run maps to one parity and the other covers the other. -/
def Run.apart (run other : Run) : Bool :=
  run.avoids other.first other.last ||
    (run.stride = 2 || run.first = run.last) && other.stride = 2 &&
      run.image run.first % 2 ≠ other.first % 2

/-- Whether a run maps to characters, and to no capital letter of ASCII, no letter with a form of
two characters, no sigma whose form depends on its place, and no blank. -/
def Run.settled (run : Run) : Bool :=
  run.avoids 0 0x5a && run.avoids 0x130 0x130 && run.avoids 0x3a3 0x3a3 &&
    run.avoids 0xd800 0xdfff && (run.image run.last).blt 0x110000 &&
    Text.blankRanges.all fun range => run.avoids range.1 range.2

theorem runs_settled : runs.all Run.settled = true := by
  decide +kernel

theorem runs_apart : (runs.all fun run => runs.all run.apart) = true := by
  decide +kernel

/-! ## Runs -/

theorem Run.covers_iff : run.covers code = true ↔
    run.first ≤ code ∧ code ≤ run.last ∧ (code - run.first) % run.stride = 0 := by
  simp [Run.covers, and_assoc]

theorem Run.image_of_avoids (free : run.avoids first last = true)
    (covers : run.covers code = true) : ¬ (first ≤ run.image code ∧ run.image code ≤ last) := by
  obtain ⟨above, below, _⟩ := Run.covers_iff.mp covers
  simp only [Run.avoids, Run.image, Bool.or_eq_true, Nat.blt_eq] at free ⊢
  omega

/-- What a run maps to is not covered by one that it is apart from. -/
theorem Run.not_covers_image (free : run.apart other = true) (covers : run.covers code = true)
    (high : 0 < run.image run.first) : other.covers (run.image code) = false := by
  rw [← Bool.not_eq_true]
  intro again
  simp only [Run.apart, Bool.or_eq_true, Bool.and_eq_true, decide_eq_true_eq] at free
  rcases free with free | ⟨⟨steps, otherSteps⟩, parity⟩
  · obtain ⟨above, below, _⟩ := Run.covers_iff.mp again
    exact Run.image_of_avoids free covers ⟨above, below⟩
  · rw [Run.covers_iff] at covers again
    rw [otherSteps] at again
    simp only [Run.image] at *
    rcases steps with steps | single
    · rw [steps] at covers
      omega
    · omega

/-! ## Characters -/

/-- A character is its own lower-case form, wherever it stands. -/
def Stable (symbol : Char) : Prop := symbol ≠ Char.ofNat 0x3a3 ∧ ofChar symbol = [symbol]

/-- Outside ASCII a character that no run covers keeps its form. -/
theorem ofChar_of_uncovered (wide : 0x80 ≤ symbol.toNat) (single : symbol.toNat ≠ 0x130)
    (uncovered : ∀ run ∈ runs, run.covers symbol.toNat = false) : ofChar symbol = [symbol] := by
  have none : runs.find? (·.covers symbol.toNat) = none := by
    simpa using uncovered
  simp only [ofChar, if_neg (Nat.not_lt.mpr wide), if_neg single, none]

/-- In ASCII a character that is no capital letter is stable. -/
theorem stable_of_ascii (narrow : symbol.toNat < 0x80)
    (small : ¬ (65 ≤ symbol.toNat ∧ symbol.toNat ≤ 90)) : Stable symbol := by
  constructor
  · rintro rfl
    exact absurd narrow (by decide)
  · have kept : symbol.toLower = symbol := by
      rw [← Char.toNat_inj, Text.toNat_toLower, if_neg small]
    simp only [ofChar, if_pos narrow, kept]

theorem isBlank_eq_false_iff : isBlank symbol = false ↔
    ∀ range ∈ Text.blankRanges, ¬ (range.1 ≤ symbol.toNat ∧ symbol.toNat ≤ range.2) := by
  simp [isBlank, Text.inRanges]

/-- What a run maps a character to is stable and not blank. -/
theorem stable_image (among : run ∈ runs) (covers : run.covers code = true) :
    Stable (Char.ofNat (run.image code)) ∧ isBlank (Char.ofNat (run.image code)) = false := by
  have settled := List.all_eq_true.mp runs_settled run among
  simp only [Run.settled, Bool.and_eq_true, Nat.blt_eq, List.all_eq_true] at settled
  obtain ⟨⟨⟨⟨⟨capital, pair⟩, sigma⟩, surrogate⟩, bounded⟩, blank⟩ := settled
  have positive : 0 < run.image run.first := by
    simp only [Run.avoids, Bool.or_eq_true, Nat.blt_eq] at capital
    omega
  have high := Run.image_of_avoids capital covers
  have notPair := Run.image_of_avoids pair covers
  have notSigma := Run.image_of_avoids sigma covers
  have notSurrogate := Run.image_of_avoids surrogate covers
  have inside : run.image code < 0x110000 := by
    obtain ⟨_, below, _⟩ := Run.covers_iff.mp covers
    simp only [Run.image] at bounded ⊢
    omega
  have spelled : (Char.ofNat (run.image code)).toNat = run.image code := by
    have valid : (run.image code).isValidChar := by
      unfold Nat.isValidChar
      omega
    rw [Char.ofNat, dif_pos valid]
    rfl
  constructor
  · by_cases narrow : run.image code < 0x80
    · exact stable_of_ascii (by omega) (by omega)
    · constructor
      · intro same
        rw [same] at spelled
        have value : (Char.ofNat 0x3a3).toNat = 0x3a3 := rfl
        omega
      · refine ofChar_of_uncovered (by omega) (by omega) fun other otherAmong => ?_
        have apart := List.all_eq_true.mp (List.all_eq_true.mp runs_apart run among) other otherAmong
        rw [spelled]
        exact Run.not_covers_image apart covers positive
  · rw [isBlank_eq_false_iff, spelled]
    intro range rangeAmong
    exact Run.image_of_avoids (blank range rangeAmong) covers

/-- The small form of an ASCII character is stable, and blank only where the character is. -/
theorem stable_toLower (narrow : symbol.toNat < 0x80) :
    Stable symbol.toLower ∧ (isBlank symbol.toLower = true → isBlank symbol = true) := by
  have value := Text.toNat_toLower symbol
  by_cases capital : 65 ≤ symbol.toNat ∧ symbol.toNat ≤ 90
  · rw [if_pos capital] at value
    have filled : isBlank symbol.toLower = false := by
      rw [isBlank_eq_false_iff, value]
      intro range among
      have low : ∀ range ∈ Text.blankRanges, range.2 < 97 ∨ 123 ≤ range.1 := by decide
      have apart := low range among
      omega
    exact ⟨stable_of_ascii (by omega) (by omega), fun blank => absurd blank (by simp [filled])⟩
  · rw [if_neg capital, Char.toNat_inj] at value
    rw [value]
    exact ⟨stable_of_ascii narrow capital, id⟩

theorem stable_pair : ∀ lower ∈ ['i', Char.ofNat 0x307],
    Stable lower ∧ isBlank lower = false := by
  simp only [List.forall_mem_cons, List.not_mem_nil, false_implies, implies_true, and_true]
  exact ⟨⟨⟨by decide, by decide⟩, by decide⟩, ⟨by decide, by decide +kernel⟩, by decide⟩

/-- The lower-case form of a character is its small ASCII form, a pair, what a run maps it to, or
the character itself. -/
theorem ofChar_cases (symbol : Char) :
    (symbol.toNat < 0x80 ∧ ofChar symbol = [symbol.toLower]) ∨
      ofChar symbol = ['i', Char.ofNat 0x307] ∨
      (∃ run ∈ runs, run.covers symbol.toNat = true ∧
        ofChar symbol = [Char.ofNat (run.image symbol.toNat)]) ∨
      ofChar symbol = [symbol] := by
  unfold ofChar
  by_cases narrow : symbol.toNat < 0x80
  · exact .inl ⟨narrow, by simp [narrow]⟩
  · by_cases pair : symbol.toNat = 0x130
    · exact .inr (.inl (by simp [pair]))
    · cases found : runs.find? (·.covers symbol.toNat) with
      | none => exact .inr (.inr (.inr (by simp [narrow, pair, found])))
      | some run =>
          have covers := List.find?_some (p := fun run : Run => run.covers symbol.toNat) found
          exact .inr (.inr (.inl ⟨run, List.mem_of_find?_eq_some found, covers,
            by simp [narrow, pair, found, Run.image]⟩))

/-- The lower-case form of a character is stable, and blank only where the character is. -/
theorem stable_of_mem_ofChar (other : symbol ≠ Char.ofNat 0x3a3) (among : lower ∈ ofChar symbol) :
    Stable lower ∧ (isBlank lower = true → isBlank symbol = true) := by
  rcases ofChar_cases symbol with
    ⟨narrow, ascii⟩ | pair | ⟨run, runAmong, covers, mapped⟩ | kept
  · rw [ascii, List.mem_singleton] at among
    exact among ▸ stable_toLower narrow
  · obtain ⟨stable, filled⟩ := stable_pair lower (pair ▸ among)
    exact ⟨stable, fun blank => absurd blank (by simp [filled])⟩
  · rw [mapped, List.mem_singleton] at among
    obtain ⟨stable, filled⟩ := stable_image runAmong covers
    rw [among]
    exact ⟨stable, fun blank => absurd blank (by simp [filled])⟩
  · have same := among
    rw [kept, List.mem_singleton] at same
    rw [same]
    exact ⟨⟨other, kept⟩, id⟩

theorem ofChar_ne_nil (symbol : Char) : ofChar symbol ≠ [] := by
  rcases ofChar_cases symbol with ⟨_, form⟩ | form | ⟨_, _, _, form⟩ | form <;> simp [form]

/-! ## Texts -/

/-- The form of a character between two others, those before it nearest first. -/
def form (before : List Char) (symbol : Char) (after : List Char) : List Char :=
  if symbol = Char.ofNat 0x3a3 then
    if meetsCased before && !meetsCased after then [Char.ofNat 0x3c2] else [Char.ofNat 0x3c3]
  else ofChar symbol

theorem convert_cons {after : List Char} :
    convert before (symbol :: after) =
      form before symbol after ++ convert (symbol :: before) after := rfl

theorem form_ne_nil {after : List Char} : form before symbol after ≠ [] := by
  unfold form
  split
  · split <;> simp
  · exact ofChar_ne_nil symbol

theorem convert_ne_nil (filled : symbols ≠ []) : convert before symbols ≠ [] := by
  cases symbols with
  | nil => exact absurd rfl filled
  | cons symbol after =>
      rw [convert_cons]
      exact List.append_ne_nil_of_left_ne_nil form_ne_nil _

/-- Wherever a character stands, its form is stable, and blank only where the character is. -/
theorem stable_of_mem_form {after : List Char} (among : lower ∈ form before symbol after) :
    Stable lower ∧ (isBlank lower = true → isBlank symbol = true) := by
  have sigmas : ∀ lower ∈ [Char.ofNat 0x3c2, Char.ofNat 0x3c3],
      Stable lower ∧ isBlank lower = false := by
    simp only [List.forall_mem_cons, List.not_mem_nil, false_implies, implies_true, and_true]
    exact ⟨⟨⟨by decide, by decide +kernel⟩, by decide⟩, ⟨by decide, by decide +kernel⟩, by decide⟩
  unfold form at among
  split at among
  · have either : lower ∈ [Char.ofNat 0x3c2, Char.ofNat 0x3c3] := by
      split at among <;> simp_all
    obtain ⟨stable, filled⟩ := sigmas lower either
    exact ⟨stable, fun blank => absurd blank (by simp [filled])⟩
  · rename_i other
    exact stable_of_mem_ofChar other among

/-- Every character of a lower-case form is stable. -/
theorem stable_of_mem_convert (among : lower ∈ convert before symbols) : Stable lower := by
  induction symbols generalizing before with
  | nil => cases among
  | cons symbol after inductionHypothesis =>
      rw [convert_cons] at among
      rcases List.mem_append.mp among with here | later
      · exact (stable_of_mem_form here).1
      · exact inductionHypothesis later

/-- A text of stable characters is its own lower-case form. -/
theorem convert_of_stable (stable : ∀ symbol ∈ symbols, Stable symbol) :
    convert before symbols = symbols := by
  induction symbols generalizing before with
  | nil => rfl
  | cons symbol after inductionHypothesis =>
      obtain ⟨other, kept⟩ := stable symbol List.mem_cons_self
      have rest : convert (symbol :: before) after = after :=
        inductionHypothesis fun later among => stable later (List.mem_cons_of_mem _ among)
      rw [convert_cons, form, if_neg other, kept, rest, List.singleton_append]

/-- The lower-case form of a text is its own lower-case form. -/
theorem convert_convert {again : List Char} :
    convert again (convert before symbols) = convert before symbols :=
  convert_of_stable fun _ => stable_of_mem_convert

/-- The form of a last character ends the lower-case form. -/
theorem exists_convert_concat (before symbols : List Char) (last : Char) :
    ∃ front, convert before (symbols ++ [last]) =
      front ++ form (symbols.reverse ++ before) last [] := by
  induction symbols generalizing before with
  | nil => exact ⟨[], by simp [convert_cons, convert]⟩
  | cons symbol after inductionHypothesis =>
      obtain ⟨front, rest⟩ := inductionHypothesis (symbol :: before)
      refine ⟨form before symbol (after ++ [last]) ++ front, ?_⟩
      rw [List.cons_append, convert_cons, rest, List.append_assoc, List.reverse_cons,
        List.append_assoc, List.singleton_append]

/-- A trimmed text has a trimmed lower-case form. -/
theorem trimmed_convert (trimmed : Text.Trimmed symbols) :
    Text.Trimmed (convert before symbols) := by
  have filled {symbol lower : Char} {before after : List Char} (kept : isBlank symbol = false)
      (among : lower ∈ form before symbol after) : isBlank lower = false := by
    rw [← Bool.not_eq_true] at kept ⊢
    exact fun blank => kept ((stable_of_mem_form among).2 blank)
  constructor
  · intro first found
    cases symbols with
    | nil => cases found
    | cons symbol after =>
        rw [convert_cons, List.head?_append_of_ne_nil _ form_ne_nil] at found
        exact filled (trimmed.front symbol rfl) (List.mem_of_mem_head? found)
  · intro last found
    rcases symbols.eq_nil_or_concat with rfl | ⟨front, symbol, rfl⟩
    · cases found
    · rw [List.concat_eq_append] at trimmed found
      obtain ⟨converted, shape⟩ := exists_convert_concat before front symbol
      rw [shape, List.getLast?_append_of_ne_nil _ form_ne_nil] at found
      exact filled (trimmed.back symbol (by simp)) (List.mem_of_mem_getLast? found)

end Admission.Lowercase
