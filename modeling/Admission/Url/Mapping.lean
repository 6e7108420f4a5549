import Admission.Text.Composed
import Admission.Text.Lowercase
import Admission.Text.Quoted
import Admission.Url.Mapping.Table

/-!
# Mapped names

The characters of a domain name are replaced by the ones they stand for: a letter
by its lower-case form, a compatibility form by the plain text. Some characters
stand for nothing. The characters without a printed form, and some others whose
plain text would divide a name, stand in no name.
-/

namespace Admission.Url.Mapping

/-- Whether a character stands for nothing. -/
def isIgnored (symbol : Char) : Bool :=
  Text.inRanges ignoredRanges symbol

/-- Whether a character joins its neighbours or keeps them from joining. -/
def isJoiner (symbol : Char) : Bool :=
  symbol.toNat = 0x200c || symbol.toNat = 0x200d

/-- Whether a character that stands for itself may stand in a name. -/
def isAllowed (symbol : Char) : Bool :=
  isJoiner symbol || (Quoted.isPrintable symbol && !Text.inRanges refusedRanges symbol)

/-- The text that a character of a name stands for, when there is one. -/
def ofChar? (symbol : Char) : Option (List Char) :=
  if symbol.toNat < 0x80 then some [symbol.toLower]
  else if isIgnored symbol then some []
  else
    match Text.Substitution.find? substitutions symbol.toNat with
    | some rule => some (rule.image symbol.toNat)
    | none => if isAllowed symbol then some (Lowercase.ofChar symbol) else none

/-- The composed text that a name stands for, when all of its characters may stand
in a name. -/
def ofName? (name : List Char) : Option (List Char) :=
  (name.mapM ofChar?).map fun parts => Text.composed parts.flatten

end Admission.Url.Mapping
