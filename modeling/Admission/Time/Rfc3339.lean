import Admission.Text.Decimal
import Admission.Time.Calendar
import Admission.Time.Instant

/-!
# RFC 3339 timestamps

Reading takes four-digit years, `T`, `t` or a space between date and time, an
optional fraction whose digits after the ninth are dropped, and `Z`, `z` or a
numeric offset. Second 60 is the leap second of its minute. Writing is in UTC
with the fewest of no, three, six or nine fraction digits.
-/

namespace Admission.Rfc3339

open Decimal

/-- One given character at the front. -/
def char? (expected : Char) : List Char → Option (List Char)
  | symbol :: rest => if symbol = expected then some rest else none
  | [] => none

/-- A date written with two hyphens. -/
def date? (symbols : List Char) : Option (Date × List Char) := do
  let (year, symbols) ← fixed? 4 symbols
  let symbols ← char? '-' symbols
  let (month, symbols) ← fixed? 2 symbols
  let symbols ← char? '-' symbols
  let (day, symbols) ← fixed? 2 symbols
  return (⟨year, month, day⟩, symbols)

/-- The fraction of a second in nanoseconds; digits after the ninth are dropped. -/
def fraction? : List Char → Option (Nat × List Char)
  | '.' :: symbols => do
      let (digits, rest) ← atLeast? 1 symbols
      let kept := digits.take 9
      return (value kept * Nat.pow 10 (9 - kept.length), rest)
  | symbols => some (0, symbols)

/-- An offset from UTC in seconds, east positive. -/
def offset? : List Char → Option (Int × List Char)
  | 'Z' :: rest => some (0, rest)
  | 'z' :: rest => some (0, rest)
  | sign :: symbols => do
      let east ←
        if sign = '+' then some true
        else if sign = '-' ∨ sign = '\u2212' then some false
        else none
      let (hours, symbols) ← fixed? 2 symbols
      let symbols ← char? ':' symbols
      let (minutes, symbols) ← fixed? 2 symbols
      if 24 ≤ hours ∨ 60 ≤ minutes then none
      else
        let seconds : Int := hours * 3600 + minutes * 60
        return (if east then seconds else -seconds, symbols)
  | [] => none

/-- The instant at a date and a time of day that lie `offset` seconds east of
UTC. The sixtieth second is the leap second after the fifty-ninth. -/
def assemble? (date : Date) (hour minute second nano : Nat) (offset : Int) : Option Instant :=
  if date.Exists ∧ hour < 24 ∧ minute < 60 ∧ second ≤ 60 then
    let (second, nano) := if second = 60 then (59, nano + nanosPerSecond) else (second, nano)
    Instant.of? (date.dayNumber * 86400 + (hour * 3600 + minute * 60 + second : Nat) - offset) nano
  else none

/-- The instant that a whole text denotes. -/
def read? (text : List Char) : Option Instant := do
  let (date, symbols) ← date? text
  let symbols ← match symbols with
    | separator :: rest => if separator ∈ ['T', 't', ' '] then some rest else none
    | [] => none
  let (hour, symbols) ← fixed? 2 symbols
  let symbols ← char? ':' symbols
  let (minute, symbols) ← fixed? 2 symbols
  let symbols ← char? ':' symbols
  let (second, symbols) ← fixed? 2 symbols
  let (nano, symbols) ← fraction? symbols
  let (offset, symbols) ← offset? symbols
  match symbols with
  | [] => assemble? date hour minute second nano offset
  | _ :: _ => none

/-- A year: four digits from 0 to 9999, otherwise with its sign. -/
def year (number : Int) : List Char :=
  if 0 ≤ number ∧ number ≤ 9999 then padded 4 number.toNat
  else (if number < 0 then '-' else '+') :: padded 4 number.natAbs

/-- A fraction with the fewest of no, three, six or nine digits. -/
def fraction (nano : Nat) : List Char :=
  if nano = 0 then []
  else if nano % 1000000 = 0 then '.' :: padded 3 (nano / 1000000)
  else if nano % 1000 = 0 then '.' :: padded 6 (nano / 1000)
  else '.' :: padded 9 nano

/-- Date and time in UTC with a given separator and ending. -/
def writeWith (separator : Char) (ending : List Char) (instant : Instant) : List Char :=
  let date := Date.ofDayNumber (instant.second / 86400)
  let time := (instant.second % 86400).toNat
  let leap := if instant.isLeap then 1 else 0
  year date.year ++ '-' :: padded 2 date.month ++ '-' :: padded 2 date.day ++
    separator :: padded 2 (time / 3600) ++ ':' :: padded 2 (time / 60 % 60) ++
    ':' :: padded 2 (time % 60 + leap) ++ fraction (instant.nano % nanosPerSecond) ++ ending

/-- The written form of an instant. -/
def write (instant : Instant) : String :=
  String.ofList (writeWith 'T' ['Z'] instant)

/-- The form shown in messages. -/
def display (instant : Instant) : String :=
  String.ofList (writeWith ' ' [' ', 'U', 'T', 'C'] instant)

end Admission.Rfc3339
