import Admission.Log.Pattern.Set
import Admission.Text.Alphanumeric
import Admission.Text.Split

/-!
# Patterns of field values

A directive of a log filter may ask that the value of a field matches a regular
expression. A text is a pattern when its groups, sets, repetitions and escapes are
complete, it is not nested too deeply, and no table of letters is needed for it.
Counts of repetitions cannot be written where patterns stand.
-/

namespace Admission.Log.Pattern

/-- A group whose end is not yet reached. -/
structure OpenGroup where
  /-- The mode around the group. -/
  around : Mode
  /-- The heights of the earlier alternatives. -/
  alternatives : List Nat
  /-- The heights of the parts of the last one, last first; none for flags. -/
  parts : List (Option Nat)
deriving DecidableEq, Repr

namespace OpenGroup

/-- The height of the last alternative. -/
def lastHeight (group : OpenGroup) : Nat :=
  joint (group.parts.map fun part => part.getD 0)

/-- The height of what stands in a group. -/
def height (group : OpenGroup) : Nat :=
  if group.alternatives.isEmpty then group.lastHeight
  else (group.lastHeight :: group.alternatives).foldl max 0 + 1

end OpenGroup

/-- What is read of a pattern. -/
structure Reading where
  mode : Mode
  /-- The innermost group, the whole pattern if there is none. -/
  group : OpenGroup
  /-- The groups around it. -/
  outer : List OpenGroup
  /-- The names of groups. -/
  names : List (List Char)
deriving DecidableEq, Repr

namespace Reading

/-- Before the first symbol. -/
def start : Reading := ⟨.standard, ⟨.standard, [], []⟩, [], []⟩

/-- Add a part. -/
def push (reading : Reading) (part : Option Nat) : Reading :=
  { reading with group := { reading.group with parts := part :: reading.group.parts } }

/-- Open a group in a mode. -/
def enter (reading : Reading) (mode : Mode) : Reading :=
  { reading with
    mode := mode, group := ⟨reading.mode, [], []⟩, outer := reading.group :: reading.outer }

/-- Close a group. -/
def leave? (reading : Reading) : Option Reading :=
  match reading.outer with
  | [] => none
  | group :: outer =>
      some <| Reading.push ⟨reading.group.around, group, outer, reading.names⟩
        (some (reading.group.height + 1))

/-- Begin another alternative. -/
def alternate (reading : Reading) : Reading :=
  let group := reading.group
  { reading with
    group := { group with alternatives := group.lastHeight :: group.alternatives, parts := [] } }

/-- Repeat the last part; there is one, and it is not made of flags. -/
def repeat? (reading : Reading) : Option Reading :=
  match reading.group.parts with
  | some height :: parts =>
      some { reading with group := { reading.group with parts := some (height + 1) :: parts } }
  | _ => none

/-- Whether a text is the name of a group. -/
def isName : List Char → Bool
  | [] => false
  | first :: rest =>
      (first = '_' || Text.isLetter first) &&
        rest.all fun symbol =>
          ['_', '.', '[', ']'].contains symbol || Text.isAlphanumeric symbol

/-- A group whose name follows. -/
def enterNamed? (reading : Reading) (symbols : List Char) : Option (Reading × List Char) :=
  match Text.splitOnce? '>' symbols with
  | none => none
  | some (name, rest) =>
      if isName name ∧ !reading.names.contains name then
        some ({ reading.enter reading.mode with names := name :: reading.names }, rest)
      else none

/-- Flags for the rest of the group, or a group with flags. -/
def setFlags? (reading : Reading) (symbols : List Char) : Option (Reading × List Char) :=
  let flags := symbols.takeWhile fun symbol => symbol != ':' && symbol != ')'
  if !Mode.isFlags flags then none
  else
    let mode := reading.mode.withFlags flags
    match symbols.drop flags.length with
    | ':' :: rest => some (reading.enter mode, rest)
    | ')' :: rest =>
        if flags.isEmpty then none else some ({ reading with mode := mode }.push none, rest)
    | _ => none

/-- What an opening parenthesis begins. -/
def open? (reading : Reading) (symbols : List Char) : Option (Reading × List Char) :=
  match symbols with
  | '?' :: 'P' :: '<' :: rest => reading.enterNamed? rest
  | '?' :: '<' :: rest => reading.enterNamed? rest
  | '?' :: rest => reading.setFlags? rest
  | rest => some (reading.enter reading.mode, rest)

/-- Add an atom. -/
def pushAtom? (reading : Reading) (atom : Atom) : Option Reading :=
  if atom.isSound reading.mode then some (reading.push (some 0)) else none

/-- Read what stands at the front. -/
def step? (reading : Reading) : List Char → Option (Reading × List Char)
  | [] => none
  | '(' :: rest => reading.open? (reading.mode.skip rest)
  | ')' :: rest => reading.leave?.map fun reading => (reading, rest)
  | '|' :: rest => some (reading.alternate, rest)
  | '[' :: rest => do
      let (height, rest) ← OpenSet.ofText? reading.mode rest
      return (reading.push (some height), rest)
  | '\\' :: rest => do
      let (atom, rest) ← Atom.escaped? reading.mode rest
      return (← reading.pushAtom? atom, rest)
  | symbol :: rest =>
      if ['?', '*', '+'].contains symbol then
        let rest := if rest.head? = some '?' then rest.drop 1 else rest
        reading.repeat?.map fun reading => (reading, rest)
      else if symbol = '\x7b' then none
      else if symbol = '.' then
        if reading.mode.unicode then some (reading.push (some 0), rest) else none
      else if symbol = '^' ∨ symbol = '$' then some (reading.push (some 0), rest)
      else (reading.pushAtom? (.literal symbol false)).map fun reading => (reading, rest)

/-- Read a text to its end; `fuel` bounds the number of its parts. -/
def run? : Nat → Reading → List Char → Option Reading
  | 0, _, _ => none
  | fuel + 1, reading, symbols =>
      match reading.mode.skip symbols with
      | [] => some reading
      | symbols => do
          let (reading, rest) ← reading.step? symbols
          run? fuel reading rest

end Reading

/-- The greatest height of a pattern. -/
def greatestHeight : Nat := 250

/-- Whether a text is a pattern. -/
def isPattern (symbols : List Char) : Bool :=
  match Reading.run? (symbols.length + 1) .start symbols with
  | none => false
  | some reading => reading.outer.isEmpty && reading.group.height ≤ greatestHeight

example : isPattern "(a|[^b-d])*?".toList = true := by decide

example : isPattern "[z-a]".toList = false := by decide

end Admission.Log.Pattern
