import Admission.Bytes.Hex
import Admission.Text.Split

/-!
# Substitutions

Tables that tell which text stands for a character. They are written as lines of
words. A word holds a code point, or the first and the last one of a range with a
hyphen between them, then a colon and the code points of the text with full stops
between them. A plus sign at the end tells that the text moves: what stands for
the next character of the range is the next character.
-/

namespace Admission.Text

/-- The text that stands for each character of a range. -/
structure Substitution where
  first : Nat
  last : Nat
  text : List Nat
  /-- Whether the text moves along with the character. -/
  moves : Bool
deriving DecidableEq, Repr

namespace Substitution

/-- Whether a substitution concerns a code point. -/
def covers (rule : Substitution) (code : Nat) : Bool :=
  rule.first ≤ code && code ≤ rule.last

/-- The text that stands for a code point of the range. -/
def image (rule : Substitution) (code : Nat) : List Char :=
  rule.text.map fun target =>
    Char.ofNat (if rule.moves then target + (code - rule.first) else target)

/-- The number that hexadecimal digits spell. -/
def code? : List Char → Option Nat
  | [] => none
  | digits =>
      digits.foldl (fun total symbol => do
        let total ← total
        let digit ← Hex.digitValue? symbol
        return total * 16 + digit) (some 0)

/-- The range that a word starts with. -/
def range? (symbols : List Char) : Option (Nat × Nat) :=
  match splitOnce? '-' symbols with
  | none => (code? symbols).map fun code => (code, code)
  | some (first, last) => do return (← code? first, ← code? last)

/-- The substitution that a word spells. -/
def ofWord? (word : List Char) : Option Substitution := do
  let (range, text) ← splitOnce? ':' word
  let (first, last) ← range? range
  let moves := text.getLast? = some '+'
  let codes ← (split '.' (if moves then text.dropLast else text)).mapM code?
  return ⟨first, last, codes, moves⟩

/-- The substitutions of a table. -/
def ofLines (lines : List String) : List Substitution :=
  lines.flatMap fun line => (split ' ' line.toList).filterMap ofWord?

/-- The first substitution that concerns a code point. -/
def find? (rules : List Substitution) (code : Nat) : Option Substitution :=
  rules.find? fun rule => rule.covers code

example : ofLines ["41-5a:61+ df:73.73"] =
    [⟨0x41, 0x5a, [0x61], true⟩, ⟨0xdf, 0xdf, [0x73, 0x73], false⟩] := by
  decide

end Substitution
end Admission.Text
