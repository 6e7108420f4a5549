import Mathlib.Data.List.TakeWhile
import Admission.Text.Blank

/-!
# Trimmed texts

A text has nothing to trim when neither its first nor its last character is blank, and trimming
leaves such a text. Every text is the one that trimming leaves of it with blanks on either side
(`trimSymbols_eq_iff`).
-/

namespace Admission.Text

variable {symbols lead kept tail : List Char}

/-- No blank character is at either end. -/
structure Trimmed (symbols : List Char) : Prop where
  front : ∀ first ∈ symbols.head?, isBlank first = false
  back : ∀ last ∈ symbols.getLast?, isBlank last = false

theorem dropWhile_isBlank_of_head (front : ∀ first ∈ symbols.head?, isBlank first = false) :
    symbols.dropWhile isBlank = symbols := by
  cases symbols with
  | nil => rfl
  | cons first rest =>
      rw [List.dropWhile_cons_of_neg]
      simp [front first rfl]

/-- A trimmed text has nothing to trim. -/
theorem trimSymbols_of_trimmed (trimmed : Trimmed symbols) : trimSymbols symbols = symbols := by
  have back : ∀ first ∈ symbols.reverse.head?, isBlank first = false := by
    rw [List.head?_reverse]
    exact trimmed.back
  rw [trimSymbols, trimStart, dropWhile_isBlank_of_head trimmed.front, trimEnd,
    dropWhile_isBlank_of_head back, List.reverse_reverse]

theorem isBlank_of_head?_dropWhile (symbols : List Char) {first : Char}
    (found : first ∈ (symbols.dropWhile isBlank).head?) : isBlank first = false := by
  have filled := List.head?_dropWhile_not isBlank symbols
  rw [Option.mem_def.mp found] at filled
  exact filled

/-- Trimming leaves a trimmed text. -/
theorem trimmed_trimSymbols (symbols : List Char) : Trimmed (trimSymbols symbols) := by
  rw [trimSymbols, trimStart]
  generalize started : symbols.dropWhile isBlank = kept
  constructor
  · intro first found
    -- What is left after trimming the end begins as it did before.
    have front : trimEnd kept <+: kept := by
      rw [trimEnd, ← List.reverse_suffix, List.reverse_reverse]
      exact List.dropWhile_suffix _
    obtain ⟨rest, split⟩ := front
    refine isBlank_of_head?_dropWhile symbols ?_
    rw [started, ← split, List.head?_append]
    simp [Option.mem_def.mp found]
  · intro last found
    rw [trimEnd, List.getLast?_reverse] at found
    exact isBlank_of_head?_dropWhile _ found

/-- Blanks in front of a text are trimmed. -/
theorem trimSymbols_append_left (blank : ∀ symbol ∈ lead, isBlank symbol = true)
    (symbols : List Char) : trimSymbols (lead ++ symbols) = trimSymbols symbols := by
  rw [trimSymbols, trimSymbols, trimStart, trimStart, List.dropWhile_append_of_pos blank]

/-- Blanks behind a text are trimmed. -/
theorem trimSymbols_append_right (blank : ∀ symbol ∈ tail, isBlank symbol = true)
    (symbols : List Char) : trimSymbols (symbols ++ tail) = trimSymbols symbols := by
  rw [trimSymbols, trimSymbols, trimStart, trimStart, List.dropWhile_append]
  split
  · rename_i onlyBlanks
    rw [List.isEmpty_iff.mp onlyBlanks, List.dropWhile_eq_nil_iff.mpr blank]
  · have blankBackwards : ∀ symbol ∈ tail.reverse, isBlank symbol = true := fun symbol among =>
      blank symbol (List.mem_reverse.mp among)
    rw [trimEnd, trimEnd, List.reverse_append, List.dropWhile_append_of_pos blankBackwards]

/-- A text is what trimming leaves of it, with blanks on either side. -/
theorem exists_trimSymbols (symbols : List Char) :
    ∃ lead tail, symbols = lead ++ trimSymbols symbols ++ tail ∧
      (∀ symbol ∈ lead, isBlank symbol = true) ∧ ∀ symbol ∈ tail, isBlank symbol = true := by
  refine ⟨symbols.takeWhile isBlank, ((trimStart symbols).reverse.takeWhile isBlank).reverse,
    ?_, fun _ => List.mem_takeWhile_imp, fun _ among => List.mem_takeWhile_imp
      (List.mem_reverse.mp among)⟩
  rw [List.append_assoc, trimSymbols, trimEnd, ← List.reverse_append,
    List.takeWhile_append_dropWhile, List.reverse_reverse, trimStart,
    List.takeWhile_append_dropWhile]

/-- Trimming leaves the one trimmed text that the text is with blanks on either side. -/
theorem trimSymbols_eq_iff : trimSymbols symbols = kept ↔
    Trimmed kept ∧ ∃ lead tail, symbols = lead ++ kept ++ tail ∧
      (∀ symbol ∈ lead, isBlank symbol = true) ∧ ∀ symbol ∈ tail, isBlank symbol = true := by
  constructor
  · rintro rfl
    exact ⟨trimmed_trimSymbols symbols, exists_trimSymbols symbols⟩
  · rintro ⟨trimmed, lead, tail, rfl, blankLead, blankTail⟩
    rw [trimSymbols_append_right blankTail, trimSymbols_append_left blankLead,
      trimSymbols_of_trimmed trimmed]

/-- Nothing is left of a text exactly when all of it is blank. -/
theorem trimSymbols_eq_nil_iff :
    trimSymbols symbols = [] ↔ ∀ symbol ∈ symbols, isBlank symbol = true := by
  rw [← List.dropWhile_eq_nil_iff, trimSymbols, trimStart]
  constructor
  · intro empty
    generalize started : symbols.dropWhile isBlank = kept at *
    rw [trimEnd, List.reverse_eq_nil_iff, List.dropWhile_eq_nil_iff] at empty
    cases kept with
    | nil => rfl
    | cons first rest =>
        have filled : isBlank first = false :=
          isBlank_of_head?_dropWhile symbols (by simp [started])
        rw [empty first (by simp)] at filled
        cases filled
  · intro empty
    rw [empty]
    rfl

end Admission.Text
