/-!
# Blank characters

The characters with the Unicode property White_Space, and trimming by them.
-/

namespace Admission.Text

/-- Code point ranges of White_Space. -/
def blankRanges : List (Nat × Nat) := [
  (0x9, 0xd), (0x20, 0x20), (0x85, 0x85), (0xa0, 0xa0), (0x1680, 0x1680), (0x2000, 0x200a),
  (0x2028, 0x2029), (0x202f, 0x202f), (0x205f, 0x205f), (0x3000, 0x3000)]

/-- Whether some range of a table holds a character. -/
def inRanges (ranges : List (Nat × Nat)) (symbol : Char) : Bool :=
  ranges.any fun range => range.1 ≤ symbol.toNat && symbol.toNat ≤ range.2

/-- Whether a character is blank. -/
def isBlank (symbol : Char) : Bool :=
  inRanges blankRanges symbol

/-- The text without its leading blank characters. -/
def trimStart (symbols : List Char) : List Char :=
  symbols.dropWhile isBlank

/-- The text without its trailing blank characters. -/
def trimEnd (symbols : List Char) : List Char :=
  (symbols.reverse.dropWhile isBlank).reverse

/-- The text without blank characters at either end. -/
def trimSymbols (symbols : List Char) : List Char :=
  trimEnd (trimStart symbols)

/-- The text without blank characters at either end. -/
def trim (text : String) : String :=
  String.ofList (trimSymbols text.toList)

/-- Whether nothing but blank characters is in a text. -/
def isBlankText (text : String) : Bool :=
  text.toList.all isBlank

end Admission.Text
