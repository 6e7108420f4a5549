import Mathlib.Data.List.Forall2
import Admission.Text.Split

/-!
# The case of ASCII letters

What the two cases of a character are as code points, that texts agree in one case exactly when
they agree in the other, and that a text is a word of small letters up to case exactly when each
of its characters is the letter there in one of its cases.
-/

namespace Admission.Text

theorem toNat_toUpper (symbol : Char) : symbol.toUpper.toNat =
    if 97 ≤ symbol.toNat ∧ symbol.toNat ≤ 122 then symbol.toNat - 32 else symbol.toNat := by
  delta Char.toUpper
  simp only [UInt32.le_iff_toNat_le, Char.toNat_val, Char.reduceVal,
    UInt32.reduceToNat]
  split
  · change (symbol.val + _).toNat = _
    rw [UInt32.toNat_add, Char.toNat_val]
    simp only [UInt32.reduceSub, UInt32.reduceToNat, Nat.reducePow]
    omega
  · rfl

theorem toNat_toLower (symbol : Char) : symbol.toLower.toNat =
    if 65 ≤ symbol.toNat ∧ symbol.toNat ≤ 90 then symbol.toNat + 32 else symbol.toNat := by
  delta Char.toLower
  simp only [ge_iff_le, UInt32.le_iff_toNat_le, Char.toNat_val, Char.reduceVal,
    UInt32.reduceToNat]
  split
  · change (symbol.val + _).toNat = _
    rw [UInt32.toNat_add, Char.toNat_val]
    simp only [UInt32.reduceSub, UInt32.reduceToNat, Nat.reducePow]
    omega
  · rfl

/-- The lower-case form of a character is its own lower-case form. -/
theorem toLower_toLower (symbol : Char) : symbol.toLower.toLower = symbol.toLower := by
  rw [← Char.toNat_inj, toNat_toLower, toNat_toLower]
  by_cases upper : 65 ≤ symbol.toNat ∧ symbol.toNat ≤ 90
  · rw [if_pos upper, if_neg (by omega)]
  · rw [if_neg upper, if_neg upper]

/-- The lower-case form of a text is its own lower-case form. -/
theorem lowerAscii_lowerAscii (text : String) : lowerAscii (lowerAscii text) = lowerAscii text := by
  rw [lowerAscii, lowerAscii, String.toList_ofList, List.map_map]
  congr 2
  funext symbol
  exact toLower_toLower symbol

/-- Two characters have one upper-case form when they have one lower-case form. -/
theorem toUpper_eq_iff {left right : Char} :
    left.toUpper = right.toUpper ↔ left.toLower = right.toLower := by
  rw [← Char.toNat_inj, ← Char.toNat_inj, toNat_toUpper, toNat_toUpper, toNat_toLower,
    toNat_toLower]
  split <;> split <;> split <;> split <;> omega

/-- Small letters of ASCII. -/
def IsSmall (symbol : Char) : Prop := 97 ≤ symbol.toNat ∧ symbol.toNat ≤ 122

instance (symbol : Char) : Decidable (IsSmall symbol) := inferInstanceAs (Decidable (_ ∧ _))

/-- Every character is a small letter. -/
def AllSmall (symbols : List Char) : Prop := ∀ symbol ∈ symbols, IsSmall symbol

instance (symbols : List Char) : Decidable (AllSmall symbols) :=
  List.decidableBAll IsSmall symbols

/-- The characters with a small letter for their lower-case form are that letter and its
capital. -/
theorem toLower_eq_iff {symbol letter : Char} (small : IsSmall letter) :
    symbol.toLower = letter ↔ symbol = letter ∨ symbol = letter.toUpper := by
  unfold IsSmall at small
  rw [← Char.toNat_inj, ← Char.toNat_inj, ← Char.toNat_inj, toNat_toLower, toNat_toUpper,
    if_pos small]
  split <;> omega

/-- A text is a word of small letters up to case when each of its characters is the letter there
in one of its cases. -/
theorem map_toLower_eq_iff {symbols word : List Char} (small : AllSmall word) :
    symbols.map Char.toLower = word ↔
      List.Forall₂ (fun symbol letter => symbol = letter ∨ symbol = letter.toUpper)
        symbols word := by
  induction word generalizing symbols with
  | nil => simp
  | cons letter word inductionHypothesis =>
      obtain ⟨smallHere, smallLater⟩ := List.forall_mem_cons.mp small
      cases symbols with
      | nil => simp
      | cons symbol symbols =>
          rw [List.map_cons, List.cons.injEq, List.forall₂_cons, toLower_eq_iff smallHere,
            inductionHypothesis smallLater]

/-- Texts have one upper-case form exactly when they are equal up to the case of letters. -/
theorem upperAscii_eq_iff {left right : String} :
    upperAscii left = upperAscii right ↔ sameIgnoringCase left right = true := by
  have symbols (first second : List Char) :
      first.map Char.toUpper = second.map Char.toUpper ↔
        first.map Char.toLower = second.map Char.toLower := by
    induction first generalizing second with
    | nil => cases second <;> simp
    | cons symbol first inductionHypothesis =>
        cases second with
        | nil => simp
        | cons other second =>
            simp only [List.map_cons, List.cons.injEq, toUpper_eq_iff, inductionHypothesis]
  rw [upperAscii, upperAscii, sameIgnoringCase, lowerAscii, lowerAscii, beq_iff_eq,
    String.ofList_inj, String.ofList_inj]
  exact symbols left.toList right.toList

end Admission.Text
