import Admission.Text.Blank
import Admission.Text.Lowercase.Table

/-!
# Lower case

The full Unicode lower-case form of a text. A capital sigma becomes the final
form where it ends a word: a cased letter stands before it and none after it,
case-ignorable characters not counted.
-/

namespace Admission.Lowercase

/-- Whether a letter has a case. -/
def isCased (symbol : Char) : Bool :=
  Text.inRanges casedRanges symbol

/-- Whether case rules look past a character. -/
def isCaseIgnorable (symbol : Char) : Bool :=
  Text.inRanges caseIgnorableRanges symbol

/-- The lower-case form of one character on its own. -/
def ofChar (symbol : Char) : List Char :=
  let code := symbol.toNat
  if code < 0x80 then [symbol.toLower]
  else if code = 0x130 then ['i', Char.ofNat 0x307]
  else
    match runs.find? (·.covers code) with
    | some run => [Char.ofNat (code + run.shift).toNat]
    | none => [symbol]

/-- Whether the first character that is not case-ignorable has a case. -/
def meetsCased (symbols : List Char) : Bool :=
  match symbols.dropWhile isCaseIgnorable with
  | [] => false
  | symbol :: _ => isCased symbol

/-- The lower-case form of the text `after`, where `before` holds the characters
that precede it, nearest first. -/
def convert (before : List Char) : List Char → List Char
  | [] => []
  | symbol :: after =>
      let lower :=
        if symbol = Char.ofNat 0x3a3 then
          if meetsCased before && !meetsCased after then [Char.ofNat 0x3c2]
          else [Char.ofNat 0x3c3]
        else ofChar symbol
      lower ++ convert (symbol :: before) after

end Admission.Lowercase

namespace Admission.Text

/-- The lower-case form of a text. -/
def lowercase (text : String) : String :=
  String.ofList (Lowercase.convert [] text.toList)

end Admission.Text
