/-!
# Splitting text

Splitting at one character keeps every part, empty ones included, so the parts
joined by that character give the text again. Letter case is compared in ASCII.
-/

namespace Admission.Text

/-- The parts of a text between the occurrences of a character. -/
def split (separator : Char) : List Char → List (List Char)
  | [] => [[]]
  | symbol :: rest =>
      if symbol = separator then [] :: split separator rest
      else
        match split separator rest with
        | [] => [[symbol]]
        | part :: parts => (symbol :: part) :: parts

/-- What stands before and after the first occurrence of a character. -/
def splitOnce? (separator : Char) : List Char → Option (List Char × List Char)
  | [] => none
  | symbol :: rest =>
      if symbol = separator then some ([], rest)
      else (splitOnce? separator rest).map fun parts => (symbol :: parts.1, parts.2)

/-- What stands before and after the last occurrence of a character. -/
def splitLast? (separator : Char) (symbols : List Char) : Option (List Char × List Char) :=
  (splitOnce? separator symbols.reverse).map fun parts => (parts.2.reverse, parts.1.reverse)

/-- The ASCII letters in lower case, everything else unchanged. -/
def lowerAscii (text : String) : String :=
  String.ofList (text.toList.map Char.toLower)

/-- The ASCII letters in upper case, everything else unchanged. -/
def upperAscii (text : String) : String :=
  String.ofList (text.toList.map Char.toUpper)

/-- Equality of texts up to the case of ASCII letters. -/
def sameIgnoringCase (left right : String) : Bool :=
  lowerAscii left == lowerAscii right

end Admission.Text
