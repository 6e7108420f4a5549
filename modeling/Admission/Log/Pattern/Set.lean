import Admission.Log.Pattern.Atom

/-!
# Sets of characters in a pattern

A set stands in square brackets. Its members are characters, ranges, kinds, named
kinds of ASCII characters and further sets; two signs of one sort between members
join two sets to another one.
-/

namespace Admission.Log.Pattern

/-- A set whose end is not yet reached. -/
structure OpenSet where
  /-- The height of what stands before the last joining sign. -/
  left : Option Nat
  /-- The heights of the members after it. -/
  members : List Nat
deriving DecidableEq, Repr

namespace OpenSet

/-- Add a member. -/
def add (set : OpenSet) (height : Nat) : OpenSet :=
  { set with members := height :: set.members }

/-- The height of a set. -/
def height (set : OpenSet) : Nat :=
  match set.left with
  | none => joint set.members
  | some left => max left (joint set.members) + 1

/-- Everything so far becomes the left side of a joining sign. -/
def split (set : OpenSet) : OpenSet := ⟨some set.height, []⟩

/-- Hyphens at the front, with the rest. -/
def hyphens (mode : Mode) : Nat → List Char → Nat × List Char
  | fuel + 1, '-' :: rest =>
      let (count, rest) := hyphens mode fuel (mode.skip rest)
      (count + 1, rest)
  | _, symbols => (0, symbols)

/-- Whether a set may be open in a mode: nothing is taken for the other case of a
letter, and no bytes are meant that are no characters. -/
def isSound (mode : Mode) (negated : Bool) : Bool :=
  if mode.unicode then !mode.folds else !negated

/-- A new set after its opening bracket, with the rest. A hyphen at the front, and a
closing bracket at the very front, are members. -/
def open? (mode : Mode) (symbols : List Char) : Option (OpenSet × List Char) :=
  let symbols := mode.skip symbols
  let negated := symbols.head? = some '^'
  let symbols := if negated then mode.skip (symbols.drop 1) else symbols
  let (count, symbols) := hyphens mode symbols.length symbols
  let set : OpenSet := ⟨none, List.replicate count 0⟩
  if !isSound mode negated then none
  else
    match symbols with
    | [] => none
    | ']' :: rest =>
        if count = 0 then some (set.add 0, mode.skip rest) else some (set, symbols)
    | _ => some (set, symbols)

/-- The names of kinds of ASCII characters. -/
def kindNames : List String :=
  ["alnum", "alpha", "ascii", "blank", "cntrl", "digit", "graph", "lower", "print", "punct",
    "space", "upper", "word", "xdigit"]

/-- A named kind after an opening bracket: whether everything but it is meant, and
the rest. -/
def named? : List Char → Option (Bool × List Char)
  | ':' :: rest =>
      let negated := rest.head? = some '^'
      let rest := if negated then rest.drop 1 else rest
      let name := rest.takeWhile (· != ':')
      match rest.drop name.length with
      | ':' :: ']' :: after =>
          if kindNames.contains (String.ofList name) then some (negated, after) else none
      | _ => none
  | _ => none

/-- The atom at the front of a member, with the rest. -/
def atom? (mode : Mode) : List Char → Option (Atom × List Char)
  | [] => none
  | '\\' :: rest => Atom.escaped? mode rest
  | symbol :: rest => some (.literal symbol false, rest)

/-- Whether two atoms are the ends of a range. -/
def isRange (mode : Mode) : Atom → Atom → Bool
  | .literal first isByte, .literal last isByte' =>
      first ≤ last && Atom.isMember mode (.literal first isByte) &&
        Atom.isMember mode (.literal last isByte')
  | _, _ => false

/-- What follows the character, kind or range at the front. -/
def member? (mode : Mode) (symbols : List Char) : Option (List Char) := do
  let (first, rest) ← atom? mode symbols
  let alone (rest : List Char) := if first.isMember mode then some rest else none
  match mode.skip rest with
  | [] => none
  | '-' :: after =>
      if mode.peek after = some ']' ∨ mode.peek after = some '-' then alone ('-' :: after)
      else do
        let (last, rest) ← atom? mode (mode.skip after)
        if isRange mode first last then some rest else none
  | rest => alone rest

/-- The height of the set at the front with the sets around it, and the rest. `fuel`
bounds the number of members. -/
def read? (mode : Mode) : Nat → OpenSet → List OpenSet → List Char → Option (Nat × List Char)
  | 0, _, _, _ => none
  | fuel + 1, set, outer, symbols =>
      match mode.skip symbols with
      | [] => none
      | '[' :: rest =>
          match named? rest with
          | some (negated, rest) =>
              if negated ∧ !mode.unicode then none else read? mode fuel (set.add 0) outer rest
          | none => do
              let (inner, rest) ← open? mode rest
              read? mode fuel inner (set :: outer) rest
      | ']' :: rest =>
          match outer with
          | [] => some (set.height + 1, rest)
          | parent :: outer => read? mode fuel (parent.add (set.height + 1)) outer rest
      | '&' :: '&' :: rest => read? mode fuel set.split outer rest
      | '-' :: '-' :: rest => read? mode fuel set.split outer rest
      | '~' :: '~' :: rest => read? mode fuel set.split outer rest
      | symbols => do
          let rest ← member? mode symbols
          read? mode fuel (set.add 0) outer rest

/-- The height of the set after its opening bracket, and the rest. -/
def ofText? (mode : Mode) (symbols : List Char) : Option (Nat × List Char) := do
  let (set, rest) ← open? mode symbols
  read? mode (symbols.length + 1) set [] rest

end OpenSet
end Admission.Log.Pattern
