import Admission.Bytes.Hex
import Admission.Text.Blank
import Admission.Text.Quoted.Table

/-!
# Quoted text

How a text is shown in messages: in double quotes, with the usual short escapes,
and with the code point of every character that is unprintable or extends the
one before it.
-/

namespace Admission.Quoted

/-- Whether a character has a printed form of its own. -/
def isPrintable (symbol : Char) : Bool :=
  !Text.inRanges unprintableRanges symbol

/-- Whether a character extends the one before it. -/
def isExtending (symbol : Char) : Bool :=
  Text.inRanges extendingRanges symbol

/-- The shown form of one character. -/
def escape (symbol : Char) : String :=
  match symbol with
  | '\x00' => "\\0"
  | '\t' => "\\t"
  | '\r' => "\\r"
  | '\n' => "\\n"
  | '\\' => "\\\\"
  | '"' => "\\\""
  | _ =>
      if isExtending symbol || !isPrintable symbol then
        "\\u\x7b" ++ Hex.ofNat symbol.toNat ++ "\x7d"
      else symbol.toString

end Admission.Quoted

namespace Admission.Text

/-- The text as it is shown in messages. -/
def quoted (text : String) : String :=
  "\"" ++ String.join (text.toList.map Quoted.escape) ++ "\""

/-- A text that may be absent, as it is shown in messages. -/
def quotedOption : Option String → String
  | some text => "Some(" ++ quoted text ++ ")"
  | none => "None"

/-- Texts in order, as they are shown in messages. -/
def quotedList (texts : List String) : String :=
  "[" ++ String.intercalate ", " (texts.map quoted) ++ "]"

/-- Texts without order, as they are shown in messages. -/
def quotedSet (texts : List String) : String :=
  "\x7b" ++ String.intercalate ", " (texts.map quoted) ++ "\x7d"

end Admission.Text
