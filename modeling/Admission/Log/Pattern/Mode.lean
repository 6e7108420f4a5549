import Admission.Text.Blank

/-!
# Modes of a pattern

Flags change how the rest of a group is read. Where blanks do not count, neither
do comments, which reach from a number sign to the end of the line.
-/

namespace Admission.Log.Pattern

/-- How a part of a pattern is read. -/
structure Mode where
  /-- Whether blanks and comments do not count. -/
  spaced : Bool
  /-- Whether letter case does not count. -/
  folds : Bool
  /-- Whether characters are meant, and not bytes. -/
  unicode : Bool
deriving DecidableEq, Repr

namespace Mode

/-- The mode of a pattern without flags. -/
def standard : Mode := ⟨false, false, true⟩

/-- Set what one flag stands for. -/
def set (mode : Mode) (flag : Char) (value : Bool) : Mode :=
  match flag with
  | 'x' => { mode with spaced := value }
  | 'i' => { mode with folds := value }
  | 'u' => { mode with unicode := value }
  | _ => mode

/-- Whether a text is a list of flags: none is repeated, and a hyphen, after which
flags are taken away, is not the last. -/
def isFlags (flags : List Char) : Bool :=
  (flags.all fun flag => "imsUuRx-".toList.contains flag) && flags.Nodup &&
    flags.getLast? != some '-'

/-- The mode after flags. -/
def withFlags (mode : Mode) (flags : List Char) : Mode :=
  let given := flags.takeWhile (· != '-')
  let taken := flags.drop given.length
  taken.foldl (fun mode flag => mode.set flag false)
    (given.foldl (fun mode flag => mode.set flag true) mode)

/-- What follows blanks and comments. -/
def afterBlanks (inComment : Bool) : List Char → List Char
  | [] => []
  | symbol :: rest =>
      if inComment then afterBlanks (symbol != '\n') rest
      else if Text.isBlank symbol then afterBlanks false rest
      else if symbol = '#' then afterBlanks true rest
      else symbol :: rest

/-- What counts of a text. -/
def skip (mode : Mode) (symbols : List Char) : List Char :=
  if mode.spaced then afterBlanks false symbols else symbols

/-- The next symbol that counts; the sign of a comment is passed over, the comment
is not. -/
def peek (mode : Mode) (symbols : List Char) : Option Char :=
  if mode.spaced then
    match symbols.dropWhile Text.isBlank with
    | '#' :: rest => (rest.dropWhile Text.isBlank).head?
    | rest => rest.head?
  else symbols.head?

end Mode
end Admission.Log.Pattern
