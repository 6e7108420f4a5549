/-!
# Calendar dates

Dates of the proleptic Gregorian calendar and their day numbers, counted from
1970-01-01. Four hundred years always have 146097 days.
-/

namespace Admission

/-- A year, a month from 1, and a day from 1. -/
structure Date where
  year : Int
  month : Nat
  day : Nat
deriving DecidableEq, Repr

namespace Date

/-- Whether a year has a 29 February. -/
def isLeapYear (year : Int) : Bool :=
  year % 4 = 0 && (year % 100 != 0 || year % 400 = 0)

/-- The lengths of the months of a year. -/
def monthLengths (leap : Bool) : List Nat :=
  [31, if leap then 29 else 28, 31, 30, 31, 30, 31, 31, 30, 31, 30, 31]

/-- Whether the month and the day exist in the year. -/
def Exists (date : Date) : Prop :=
  1 ≤ date.month ∧ 1 ≤ date.day ∧
    date.day ≤ (monthLengths (isLeapYear date.year)).getD (date.month - 1) 0

instance (date : Date) : Decidable date.Exists :=
  inferInstanceAs (Decidable (_ ∧ _))

/-- Days from the start of a cycle of four hundred years to the start of its
year `index`; the first year of a cycle is a leap year. -/
def daysBeforeYear (index : Nat) : Nat :=
  365 * index + (index + 3) / 4 - (index + 99) / 100 + (index + 399) / 400

/-- Days of the year that lie before a month. -/
def daysBeforeMonth (leap : Bool) (month : Nat) : Nat :=
  ((monthLengths leap).take (month - 1)).foldl (· + ·) 0

/-- Days from 0000-01-01 to 1970-01-01. -/
def epochOffset : Int := 719528

/-- The number of a date's day. -/
def dayNumber (date : Date) : Int :=
  let cycle := date.year / 400
  let index := (date.year % 400).toNat
  cycle * 146097 + daysBeforeYear index +
    daysBeforeMonth (isLeapYear date.year) date.month + date.day - 1 - epochOffset

/-- The month and the day of a year that a count of days after new year reaches. -/
def monthDay (month : Nat) (days : Nat) : List Nat → Nat × Nat
  | [] => (month, days + 1)
  | length :: rest =>
      if days < length then (month, days + 1) else monthDay (month + 1) (days - length) rest

/-- The year of a cycle that holds a day of the cycle. -/
def yearIndex (day : Nat) : Nat :=
  let guess := day / 365
  if daysBeforeYear guess ≤ day then guess else guess - 1

/-- The date whose day has a number. -/
def ofDayNumber (number : Int) : Date :=
  let shifted := number + epochOffset
  let day := (shifted % 146097).toNat
  let index := yearIndex day
  let year := shifted / 146097 * 400 + index
  let (month, day) := monthDay 1 (day - daysBeforeYear index) (monthLengths (isLeapYear year))
  ⟨year, month, day⟩

/-- The weekday of a day number, with Monday as zero. -/
def weekday (number : Int) : Nat := ((number + 3) % 7).toNat

end Date
end Admission
