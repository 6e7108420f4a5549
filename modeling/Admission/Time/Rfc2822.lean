import Admission.Text.Blank
import Admission.Text.Split
import Admission.Time.Rfc3339

/-!
# Internet message dates

Dates as in `Tue, 14 Nov 2023 22:13:20 GMT`. The weekday and the seconds may be
absent, years of two or three digits are completed, some zones have names, and
comments in parentheses may follow. A weekday must be that of the date.
-/

namespace Admission.Rfc2822

open Decimal Rfc3339

/-- The months by their short names. -/
def monthNames : List String :=
  ["jan", "feb", "mar", "apr", "may", "jun", "jul", "aug", "sep", "oct", "nov", "dec"]

/-- The weekdays by their short names, Monday first. -/
def weekdayNames : List String := ["mon", "tue", "wed", "thu", "fri", "sat", "sun"]

/-- The position of a short name that the text starts with, in any case. -/
def name? (names : List String) (symbols : List Char) : Option (Nat × List Char) :=
  let written := Text.lowerAscii (String.ofList (symbols.take 3))
  (names.findIdx? (· == written)).map fun index => (index, symbols.drop 3)

/-- At least one blank. -/
def blank? (symbols : List Char) : Option (List Char) :=
  match symbols with
  | symbol :: rest => if Text.isBlank symbol then some (Text.trimStart rest) else none
  | [] => none

/-- A weekday followed by a comma, when the text starts with a weekday. -/
def weekday? (symbols : List Char) : Option (Option Nat × List Char) :=
  match name? weekdayNames symbols with
  | none => some (none, symbols)
  | some (weekday, rest) => (char? ',' rest).map fun rest => (some weekday, rest)

/-- A day of one or two digits. -/
def day? (symbols : List Char) : Option (Nat × List Char) :=
  let digits := (symbols.take 2).takeWhile isDigit
  if digits.isEmpty then none else some (value digits, symbols.drop digits.length)

/-- A year of at least two digits; two digits count from 1950 to 2049 and three
from 1900. -/
def year? (symbols : List Char) : Option (Nat × List Char) := do
  let (digits, rest) ← atLeast? 2 symbols
  let year := value digits
  let year :=
    if digits.length = 2 then (if year < 50 then year + 2000 else year + 1900)
    else if digits.length = 3 then year + 1900
    else year
  return (year, rest)

/-- Zones with names of more than one letter, in hours east of UTC. -/
def namedZones : List (String × Int) :=
  [("gmt", 0), ("ut", 0), ("z", 0), ("edt", -4), ("est", -5), ("cdt", -5), ("cst", -6),
    ("mdt", -6), ("mst", -7), ("pdt", -7), ("pst", -8)]

/-- An offset from UTC in seconds. Single letters other than `j` mean UTC. -/
def zone? (symbols : List Char) : Option (Int × List Char) :=
  let name := symbols.takeWhile Char.isAlpha
  let rest := symbols.dropWhile Char.isAlpha
  if name.isEmpty then do
    let (east, symbols) ← match symbols with
      | '+' :: rest => some (true, rest)
      | '-' :: rest => some (false, rest)
      | _ => none
    let (hours, symbols) ← fixed? 2 symbols
    let (minutes, symbols) ← fixed? 2 symbols
    if 60 ≤ minutes then none
    else
      let seconds : Int := hours * 3600 + minutes * 60
      return (if east then seconds else -seconds, symbols)
  else
    match namedZones.find? fun zone => zone.1 == Text.lowerAscii (String.ofList name) with
    | some (_, hours) => some (hours * 3600, rest)
    | none =>
        match name with
        | [letter] => if letter = 'j' ∨ letter = 'J' then none else some (0, rest)
        | _ => none

/-- What follows the comment that is open `depth` levels deep. -/
def closeComment? (depth : Nat) : List Char → Option (List Char)
  | [] => none
  | '\\' :: _ :: rest => closeComment? depth rest
  | ')' :: rest => if depth ≤ 1 then some rest else closeComment? (depth - 1) rest
  | '(' :: rest => closeComment? (depth + 1) rest
  | _ :: rest => closeComment? depth rest

/-- Whether nothing but comments is left; `budget` bounds their number. -/
def onlyComments (symbols : List Char) : Nat → Bool
  | 0 => symbols.isEmpty
  | budget + 1 =>
      symbols.isEmpty ||
        match Text.trimStart symbols with
        | '(' :: rest =>
            match closeComment? 1 rest with
            | some rest => onlyComments rest budget
            | none => false
        | _ => false

/-- The instant a whole text denotes. -/
def read? (text : List Char) : Option Instant := do
  let (weekday, symbols) ← weekday? (Text.trimStart text)
  let (day, symbols) ← day? (Text.trimStart symbols)
  let symbols ← blank? symbols
  let (month, symbols) ← name? monthNames symbols
  let symbols ← blank? symbols
  let (year, symbols) ← year? symbols
  let symbols ← blank? symbols
  let (hour, symbols) ← fixed? 2 symbols
  let symbols ← char? ':' (Text.trimStart symbols)
  let (minute, symbols) ← fixed? 2 (Text.trimStart symbols)
  let (second, symbols) ← match char? ':' (Text.trimStart symbols) with
    | some rest => fixed? 2 (Text.trimStart rest)
    | none => some (0, symbols)
  let symbols ← blank? symbols
  let (offset, symbols) ← zone? symbols
  let date : Date := ⟨year, month + 1, day⟩
  let sameWeekday := weekday.all fun weekday => weekday = Date.weekday date.dayNumber
  if sameWeekday ∧ offset.natAbs < 86400 ∧ onlyComments symbols symbols.length then
    assemble? date hour minute second 0 offset
  else none

end Admission.Rfc2822
