import Admission.Bytes.Hex
import Admission.Log.Pattern.Mode

/-!
# Atoms of a pattern

The smallest parts of a pattern: characters, positions, and the kinds of
characters that have a letter of their own. No tables of letters are at hand, so
what needs them is refused: kinds and word boundaries of characters, and letters
without regard to case.
-/

namespace Admission.Log.Pattern

/-- An atom. -/
inductive Atom where
  /-- A character; whether it is given as a byte. -/
  | literal (symbol : Char) (isByte : Bool)
  /-- A position; whether it is told by the words around it. -/
  | position (ofWord : Bool)
  /-- Digits, blanks or word characters, or everything but them. -/
  | kind (negated : Bool)
deriving DecidableEq, Repr

namespace Atom

/-- Whether an atom may stand in a pattern. -/
def isSound (mode : Mode) : Atom → Bool
  | .literal symbol isByte =>
      if mode.unicode then !mode.folds else !(isByte && 0x80 ≤ symbol.toNat)
  | .position ofWord => !(ofWord && mode.unicode)
  | .kind negated => !mode.unicode && !negated

/-- Whether an atom may stand in a set of characters. -/
def isMember (mode : Mode) : Atom → Bool
  | .literal symbol _ => mode.unicode || symbol.toNat < 0x80
  | .position _ => false
  | .kind negated => !mode.unicode && !negated

/-- The number that so many hexadecimal digits spell, with the rest. -/
def digits? (mode : Mode) : Nat → Nat → List Char → Option (Nat × List Char)
  | 0, total, rest => some (total, rest)
  | count + 1, total, symbols =>
      match mode.skip symbols with
      | [] => none
      | symbol :: rest => do
          let digit ← Hex.digitValue? symbol
          digits? mode count (total * 16 + digit) rest

/-- The character of so many hexadecimal digits, with the rest. -/
def coded? (mode : Mode) (count : Nat) (symbols : List Char) : Option (Atom × List Char) := do
  let (code, rest) ← digits? mode count 0 symbols
  if code.isValidChar then some (.literal (Char.ofNat code) (count = 2), rest) else none

/-- The control characters that have a letter of their own. -/
def control? : Char → Option Char
  | 'a' => some '\x07'
  | 'f' => some '\x0c'
  | 't' => some '\t'
  | 'n' => some '\n'
  | 'r' => some '\r'
  | 'v' => some '\x0b'
  | _ => none

/-- The atom that a symbol after a backslash stands for: letters and digits have
meanings of their own or none, and other ASCII signs stand for themselves. -/
def ofSymbol? (symbol : Char) : Option Atom :=
  if ['d', 's', 'w'].contains symbol then some (.kind false)
  else if ['D', 'S', 'W'].contains symbol then some (.kind true)
  else if ['b', 'B', '<', '>'].contains symbol then some (.position true)
  else if ['A', 'z'].contains symbol then some (.position false)
  else
    match control? symbol with
    | some control => some (.literal control false)
    | none =>
        if symbol.toNat < 0x80 ∧ !symbol.isAlphanum then some (.literal symbol false) else none

/-- The atom after a backslash, with the rest. -/
def escaped? (mode : Mode) : List Char → Option (Atom × List Char)
  | [] => none
  | 'x' :: rest => coded? mode 2 rest
  | 'u' :: rest => coded? mode 4 rest
  | 'U' :: rest => coded? mode 8 rest
  | symbol :: rest => (ofSymbol? symbol).map fun atom => (atom, rest)

end Atom

/-- The height of parts next to each other. -/
def joint : List Nat → Nat
  | [] => 0
  | [height] => height
  | heights => heights.foldl max 0 + 1

end Admission.Log.Pattern
