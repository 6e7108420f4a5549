import Mathlib.Data.List.Forall2
import Admission.Proofs.Text.Case
import Admission.Secret

/-!
# Variables that hold secrets

The name of a variable keeps the letters and digits of the name of its secret, the letters in
upper case, and has an underscore for every other character. Secrets are read from one variable
exactly when their names differ in letter case and between such other characters alone, and then
an environment that holds one of them holds both.
-/

namespace Admission.SecretSource

variable {leading first second name : String} {left right symbol : Char}
  {values : List (String × Bytes)}

/-- ASCII letters and digits by their numbers. -/
theorem isAlphanum_iff : symbol.isAlphanum = true ↔
    (65 ≤ symbol.toNat ∧ symbol.toNat ≤ 90) ∨ (97 ≤ symbol.toNat ∧ symbol.toNat ≤ 122) ∨
      (48 ≤ symbol.toNat ∧ symbol.toNat ≤ 57) := by
  delta Char.isAlphanum Char.isAlpha Char.isUpper Char.isLower Char.isDigit
  simp only [ge_iff_le, Bool.or_eq_true, Bool.and_eq_true, decide_eq_true_eq,
    UInt32.le_iff_toNat_le, Char.toNat_val, Char.reduceVal, UInt32.reduceToNat, or_assoc]

/-- Characters that one character of variable names stands for: one letter in two cases, or two
characters that are neither letters nor digits. -/
def Blurs (left right : Char) : Prop :=
  left.toLower = right.toLower ∨ left.isAlphanum = false ∧ right.isAlphanum = false

theorem toNat_variableSymbol : (variableSymbol symbol).toNat =
    if 97 ≤ symbol.toNat ∧ symbol.toNat ≤ 122 then symbol.toNat - 32
    else if (65 ≤ symbol.toNat ∧ symbol.toNat ≤ 90) ∨ (48 ≤ symbol.toNat ∧ symbol.toNat ≤ 57) then
      symbol.toNat
    else 95 := by
  unfold variableSymbol
  split
  · rename_i kept
    rw [isAlphanum_iff] at kept
    rw [Text.toNat_toUpper]
    grind
  · rename_i other
    rw [isAlphanum_iff] at other
    have underscore : '_'.toNat = 95 := rfl
    rw [underscore]
    grind

theorem variableSymbol_eq_iff : variableSymbol left = variableSymbol right ↔ Blurs left right := by
  rw [Blurs, ← Char.toNat_inj, ← Char.toNat_inj, toNat_variableSymbol, toNat_variableSymbol,
    Text.toNat_toLower, Text.toNat_toLower, ← Bool.not_eq_true, ← Bool.not_eq_true,
    isAlphanum_iff, isAlphanum_iff]
  grind

/-- Secrets are read from one variable when their names are written alike, character by
character. -/
theorem variableName_eq_iff : variableName leading first = variableName leading second ↔
    List.Forall₂ Blurs first.toList second.toList := by
  rw [variableName, variableName, String.append_right_inj, String.ofList_inj,
    ← List.forall₂_eq_eq_eq, List.forall₂_map_left_iff, List.forall₂_map_right_iff]
  simp only [variableSymbol_eq_iff]

/-- Names that differ only where neither has an ASCII letter or digit, character by character. -/
def Blurred (first second : String) : Prop :=
  List.Forall₂ (fun left right =>
    left = right ∨ left.isAlphanum = false ∧ right.isAlphanum = false) first.toList second.toList

instance (first second : String) : Decidable (Blurred first second) :=
  inferInstanceAs (Decidable (List.Forall₂ _ _ _))

/-- Between names in lower case the case of letters makes no difference. -/
theorem variableName_lowerAscii_eq_iff :
    variableName leading (Text.lowerAscii first) = variableName leading (Text.lowerAscii second) ↔
      Blurred (Text.lowerAscii first) (Text.lowerAscii second) := by
  rw [variableName_eq_iff, Blurred, Text.lowerAscii, Text.lowerAscii, String.toList_ofList,
    String.toList_ofList]
  simp only [List.forall₂_map_left_iff, List.forall₂_map_right_iff, Blurs, Text.toLower_toLower]

/-- What stands in front of a name stands in front of its variable. -/
theorem variableName_append :
    variableName leading (first ++ second) =
      variableName (variableName leading first) second := by
  simp [variableName, String.append_assoc]

/-- The secret that an environment holds for a name is what its variable holds. -/
theorem answer_environment : (answer (.environment leading values) name).toOption =
    (values.find? fun entry => entry.1 == variableName leading name).bind fun entry =>
      if entry.2.isEmpty ∨ entry.2.text?.isNone then none else some ⟨entry.2⟩ := by
  unfold answer
  dsimp only
  split
  · rename_i value held
    rw [held, Option.bind_some]
    dsimp only
    split <;> rfl
  · rename_i unset
    rw [unset]
    rfl

/-- Every environment holds the same for two names exactly when both are read from one
variable. -/
theorem answers_agree_iff :
    (∀ values, (answer (.environment leading values) first).toOption =
        (answer (.environment leading values) second).toOption) ↔
      variableName leading first = variableName leading second := by
  constructor
  · intro agree
    by_contra apart
    obtain ⟨value, held⟩ : ∃ value : Bytes, ¬ (value.isEmpty ∨ value.text?.isNone) :=
      ⟨Bytes.ofText "secret", by decide⟩
    have alone := agree [(variableName leading first, value)]
    simp only [answer_environment, List.find?_cons, beq_self_eq_true,
      beq_eq_false_iff_ne.mpr apart, List.find?_nil, Option.bind_some, Option.bind_none,
      if_neg held, reduceCtorEq] at alone
  · intro same values
    rw [answer_environment, answer_environment, same]

end Admission.SecretSource
