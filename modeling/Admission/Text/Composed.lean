import Admission.Text.Composed.Table

/-!
# Composed text

A letter with marks may be one character or several. Composing takes every
character apart, orders the marks of each place by their classes, and joins what
can be joined again, so that equivalent texts become equal. Texts whose
characters are never replaced for good are meant: a character that is only a
second form of another one stays.
-/

namespace Admission.Composed

/-- The class of a mark; zero for the characters that start a place of their own. -/
def rank (symbol : Char) : Nat :=
  if symbol.toNat < 0x300 then 0
  else
    let found := rankRanges.find? fun range =>
      range.1 ≤ symbol.toNat && symbol.toNat ≤ range.2.1
    (found.map fun range => range.2.2).getD 0

/-- The first of the initial parts of Korean syllables. -/
def initials : Nat := 0x1100

/-- The first of the medial parts of Korean syllables. -/
def medials : Nat := 0x1161

/-- The place before the first of the final parts of Korean syllables. -/
def finals : Nat := 0x11a7

/-- The first of the Korean syllables. -/
def syllables : Nat := 0xac00

/-- The parts of a Korean syllable. -/
def syllableParts? (code : Nat) : Option (List Char) :=
  if syllables ≤ code ∧ code < syllables + 11172 then
    let place := code - syllables
    let front := [Char.ofNat (initials + place / 588), Char.ofNat (medials + place % 588 / 28)]
    some (if place % 28 = 0 then front else front ++ [Char.ofNat (finals + place % 28)])
  else none

/-- The syllable of an initial with a medial, or of an open syllable with a final. -/
def syllable? (first second : Nat) : Option Char :=
  if initials ≤ first ∧ first < initials + 19 ∧ medials ≤ second ∧ second < medials + 21 then
    some (Char.ofNat (syllables + ((first - initials) * 21 + (second - medials)) * 28))
  else if syllables ≤ first ∧ first < syllables + 11172 ∧ (first - syllables) % 28 = 0 ∧
      finals < second ∧ second < finals + 28 then
    some (Char.ofNat (first + (second - finals)))
  else none

/-- The characters that a character is made of. -/
def parts (symbol : Char) : List Char :=
  let code := symbol.toNat
  if code < 0xc0 then [symbol]
  else
    match syllableParts? code with
    | some symbols => symbols
    | none =>
        match Text.Substitution.find? compositions code with
        | some rule => rule.image code
        | none => [symbol]

/-- Put a character in front of ordered ones; a mark goes behind those of lower
classes. -/
def place (symbol : Char) : List Char → List Char
  | [] => [symbol]
  | next :: rest =>
      if 0 < rank next ∧ rank next < rank symbol then next :: place symbol rest
      else symbol :: next :: rest

/-- The characters with the marks of each place in the order of their classes. -/
def ordered (symbols : List Char) : List Char :=
  symbols.foldr place []

/-- The character that two characters make. -/
def pair? (first second : Char) : Option Char :=
  match syllable? first.toNat second.toNat with
  | some symbol => some symbol
  | none =>
      let whole := (parts first ++ [second]).map Char.toNat
      (compositions.find? fun rule => rule.text == whole).map fun rule => Char.ofNat rule.first

/-- Whether a mark in between keeps a character from joining. -/
def isBlocked (marks : List Char) (symbol : Char) : Bool :=
  marks.head?.any fun mark => rank symbol ≤ rank mark

/-- Join what follows with the character that starts a place; `marks` holds, last
first, the marks in between that stay. -/
def joinPlace (starter : Char) (marks : List Char) : List Char → List Char
  | [] => starter :: marks.reverse
  | next :: rest =>
      match if isBlocked marks next then none else pair? starter next with
      | some whole => joinPlace whole marks rest
      | none =>
          if rank next = 0 then starter :: (marks.reverse ++ joinPlace next [] rest)
          else joinPlace starter (next :: marks) rest

/-- Join what can be joined; marks before the first place stay. -/
def joined : List Char → List Char
  | [] => []
  | symbol :: rest =>
      if rank symbol = 0 then joinPlace symbol [] rest else symbol :: joined rest

end Admission.Composed

namespace Admission.Text

/-- The composed form of a text; nothing joins below the first mark. -/
def composed (symbols : List Char) : List Char :=
  if symbols.all fun symbol => symbol.toNat < 0x300 then symbols
  else Composed.joined (Composed.ordered (symbols.flatMap Composed.parts))

end Admission.Text
