import Mathlib.Data.List.Induction
import Admission.Proofs.Text.Trimming
import Admission.Text.Split

/-!
# Parts of a text

What stands in front of a separator is found again when it does not contain that separator
itself. Blanks at either end of a text stand at the outer ends of its first and its last part,
as long as the separator is no blank. So the parts without surrounding blanks are the same,
whether the text itself is trimmed before it is split or not.
-/

namespace Admission.Text

variable {separator symbol : Char} {symbols : List Char}

/-- The first separator is found behind what holds none. -/
theorem splitOnce?_append (absent : separator ∉ symbols) (rest : List Char) :
    splitOnce? separator (symbols ++ separator :: rest) = some (symbols, rest) := by
  induction symbols with
  | nil => simp [splitOnce?]
  | cons symbol symbols inductionHypothesis =>
      rw [List.mem_cons, not_or] at absent
      simp [splitOnce?, Ne.symm absent.1, inductionHypothesis absent.2]

/-- What stands before and after the first separator: what stands before it holds none. -/
theorem splitOnce?_eq_some_iff {before after : List Char} :
    splitOnce? separator symbols = some (before, after) ↔
      separator ∉ before ∧ symbols = before ++ separator :: after := by
  constructor
  · intro found
    induction symbols generalizing before with
    | nil => cases found
    | cons symbol rest inductionHypothesis =>
        by_cases separates : symbol = separator
        · rw [splitOnce?, if_pos separates] at found
          cases found
          exact ⟨List.not_mem_nil, by rw [separates, List.nil_append]⟩
        · rw [splitOnce?, if_neg separates, Option.map_eq_some_iff] at found
          obtain ⟨⟨front, back⟩, later, same⟩ := found
          cases same
          obtain ⟨absent, rfl⟩ := inductionHypothesis later
          exact ⟨List.not_mem_cons_of_ne_of_not_mem (Ne.symm separates) absent, rfl⟩
  · rintro ⟨absent, rfl⟩
    exact splitOnce?_append absent after

/-- Both sides of a separator that the first of them does not hold can be told apart. -/
theorem append_separator_inj {other rest otherRest : List Char} (absent : separator ∉ symbols)
    (otherAbsent : separator ∉ other)
    (same : symbols ++ separator :: rest = other ++ separator :: otherRest) :
    symbols = other ∧ rest = otherRest := by
  have split := splitOnce?_append absent rest
  rw [same, splitOnce?_append otherAbsent otherRest] at split
  cases split
  exact ⟨rfl, rfl⟩

/-! ## Parts -/

theorem split_nil (separator : Char) : split separator [] = [[]] := rfl

theorem split_cons_separator (separator : Char) (rest : List Char) :
    split separator (separator :: rest) = [] :: split separator rest :=
  if_pos rfl

/-- Another character in front joins the first part, and there always is one. -/
theorem exists_split (separator : Char) (symbols : List Char) :
    ∃ part parts, split separator symbols = part :: parts ∧
      ∀ symbol, symbol ≠ separator →
        split separator (symbol :: symbols) = (symbol :: part) :: parts := by
  have joins {symbols part : List Char} {parts : List (List Char)}
      (known : split separator symbols = part :: parts) (symbol : Char)
      (other : symbol ≠ separator) :
      split separator (symbol :: symbols) = (symbol :: part) :: parts :=
    (if_neg other).trans (by rw [known])
  induction symbols with
  | nil => exact ⟨[], [], rfl, joins rfl⟩
  | cons first rest inductionHypothesis =>
      by_cases separates : first = separator
      · subst separates
        exact ⟨_, _, split_cons_separator first rest, joins (split_cons_separator first rest)⟩
      · obtain ⟨part, parts, _, joined⟩ := inductionHypothesis
        exact ⟨_, _, joined first separates, joins (joined first separates)⟩

/-- A character that is no separator belongs to the first part. -/
theorem split_cons_of_ne (other : symbol ≠ separator) (rest : List Char) :
    split separator (symbol :: rest) = (split separator rest).modifyHead (symbol :: ·) := by
  obtain ⟨part, parts, known, joined⟩ := exists_split separator rest
  rw [joined symbol other, known, List.modifyHead_cons]

/-- A text without separators is its only part. -/
theorem split_of_notMem (absent : separator ∉ symbols) : split separator symbols = [symbols] := by
  induction symbols with
  | nil => rfl
  | cons symbol rest inductionHypothesis =>
      rw [List.mem_cons, not_or] at absent
      rw [split_cons_of_ne (Ne.symm absent.1), inductionHypothesis absent.2,
        List.modifyHead_cons]

/-- What stands on either side of a separator is split on its own. -/
theorem split_append_separator (left right : List Char) :
    split separator (left ++ separator :: right) =
      split separator left ++ split separator right := by
  induction left with
  | nil => exact split_cons_separator separator right
  | cons symbol left inductionHypothesis =>
      rw [List.cons_append]
      by_cases separates : symbol = separator
      · rw [separates, split_cons_separator, split_cons_separator, inductionHypothesis,
          List.cons_append]
      · obtain ⟨part, parts, known, joined⟩ := exists_split separator left
        rw [split_cons_of_ne separates, inductionHypothesis, known, joined symbol separates,
          List.cons_append, List.modifyHead_cons, List.cons_append]

/-- Changing characters and splitting commute as long as separators stay and none are made. -/
theorem split_map {change : Char → Char}
    (keeps : ∀ symbol, change symbol = separator ↔ symbol = separator) (symbols : List Char) :
    split separator (symbols.map change) = (split separator symbols).map (List.map change) := by
  induction symbols with
  | nil => rfl
  | cons symbol rest inductionHypothesis =>
      rw [List.map_cons]
      by_cases separates : symbol = separator
      · rw [(keeps symbol).mpr separates, separates, split_cons_separator, split_cons_separator,
          inductionHypothesis, List.map_cons, List.map_nil]
      · have changed : change symbol ≠ separator := separates ∘ (keeps symbol).mp
        obtain ⟨part, parts, known, joined⟩ := exists_split separator rest
        rw [split_cons_of_ne changed, inductionHypothesis, known, joined symbol separates,
          List.map_cons, List.modifyHead_cons, List.map_cons, List.map_cons]

/-- A character at the end that is no separator belongs to the last part. -/
theorem split_concat_of_ne (other : symbol ≠ separator) (symbols : List Char) :
    ∃ parts last, split separator symbols = parts ++ [last] ∧
      split separator (symbols ++ [symbol]) = parts ++ [last ++ [symbol]] := by
  induction symbols with
  | nil =>
      refine ⟨[], [], split_nil separator, ?_⟩
      rw [List.nil_append, split_cons_of_ne other, split_nil, List.modifyHead_cons]
      rfl
  | cons first rest inductionHypothesis =>
      obtain ⟨parts, last, before, after⟩ := inductionHypothesis
      rw [List.cons_append]
      by_cases separates : first = separator
      · refine ⟨[] :: parts, last, ?_, ?_⟩
        · rw [separates, split_cons_separator, before, List.cons_append]
        · rw [separates, split_cons_separator, after, List.cons_append]
      · rw [split_cons_of_ne separates, split_cons_of_ne separates, before, after]
        cases parts with
        | nil => exact ⟨[], first :: last, rfl, rfl⟩
        | cons part parts => exact ⟨(first :: part) :: parts, last, rfl, rfl⟩

/-! ## Trimmed parts -/

theorem trimSymbols_cons_of_isBlank (blank : isBlank symbol = true) (symbols : List Char) :
    trimSymbols (symbol :: symbols) = trimSymbols symbols :=
  trimSymbols_append_left (List.forall_mem_singleton.mpr blank) symbols

theorem trimSymbols_concat_of_isBlank (blank : isBlank symbol = true) (symbols : List Char) :
    trimSymbols (symbols ++ [symbol]) = trimSymbols symbols :=
  trimSymbols_append_right (List.forall_mem_singleton.mpr blank) symbols

/-- The parts of a text between the occurrences of a character, without surrounding blanks. -/
def pieces (separator : Char) (symbols : List Char) : List (List Char) :=
  (split separator symbols).map trimSymbols

theorem pieces_cons_of_isBlank (other : symbol ≠ separator) (blank : isBlank symbol = true)
    (symbols : List Char) : pieces separator (symbol :: symbols) = pieces separator symbols := by
  rw [pieces, pieces, split_cons_of_ne other]
  cases split separator symbols with
  | nil => rfl
  | cons part parts =>
      rw [List.modifyHead_cons, List.map_cons, List.map_cons,
        trimSymbols_cons_of_isBlank blank]

theorem pieces_concat_of_isBlank (other : symbol ≠ separator) (blank : isBlank symbol = true)
    (symbols : List Char) : pieces separator (symbols ++ [symbol]) = pieces separator symbols := by
  obtain ⟨parts, last, before, after⟩ := split_concat_of_ne other symbols
  rw [pieces, pieces, before, after, List.map_append, List.map_append, List.map_singleton,
    List.map_singleton, trimSymbols_concat_of_isBlank blank]

section Trimming

variable (separates : isBlank separator = false)

include separates

theorem ne_separator_of_isBlank (blank : isBlank symbol = true) : symbol ≠ separator := by
  rintro rfl
  rw [separates] at blank
  cases blank

theorem pieces_trimStart (symbols : List Char) :
    pieces separator (trimStart symbols) = pieces separator symbols := by
  induction symbols with
  | nil => rfl
  | cons symbol symbols inductionHypothesis =>
      by_cases blank : isBlank symbol = true
      · rw [trimStart, List.dropWhile_cons_of_pos blank,
          pieces_cons_of_isBlank (ne_separator_of_isBlank separates blank) blank]
        exact inductionHypothesis
      · rw [trimStart, List.dropWhile_cons_of_neg blank]

theorem pieces_trimEnd (symbols : List Char) :
    pieces separator (trimEnd symbols) = pieces separator symbols := by
  induction symbols using List.reverseRecOn with
  | nil => rfl
  | append_singleton symbols symbol inductionHypothesis =>
      by_cases blank : isBlank symbol = true
      · rw [trimEnd, List.reverse_concat, List.dropWhile_cons_of_pos blank,
          pieces_concat_of_isBlank (ne_separator_of_isBlank separates blank) blank]
        exact inductionHypothesis
      · rw [trimEnd, List.reverse_concat, List.dropWhile_cons_of_neg blank, List.reverse_cons,
          List.reverse_reverse]

/-- Trimming a text leaves its pieces as they are, when it is not split at a blank. -/
theorem pieces_trimSymbols (symbols : List Char) :
    pieces separator (trimSymbols symbols) = pieces separator symbols := by
  rw [trimSymbols, pieces_trimEnd separates, pieces_trimStart separates]

end Trimming

end Admission.Text
