import Admission.Proofs.Text.Decimal
import Admission.Proofs.Time.Calendar
import Admission.Proofs.Time.Position
import Admission.Time.Rfc3339

/-!
# Written instants read back

An instant of a year with four digits is read back from its written form, to the nanosecond and
within leap seconds. Every text that is read has a hyphen behind its year, which no numeral has.
-/

namespace Admission

/-- The year of an instant in UTC. -/
def Instant.year (instant : Instant) : Int := (Date.ofDayNumber (instant.second / 86400)).year

namespace Rfc3339

open Decimal

variable {instant : Instant} {text rest : List Char}

/-! ## Parts of a written instant -/

theorem date?_written {date : Date} (positive : 0 ≤ date.year) (four : date.year ≤ 9999)
    (real : date.Exists) (rest : List Char) :
    date? (year date.year ++
        '-' :: (padded 2 date.month ++ '-' :: (padded 2 date.day ++ rest))) =
      some (date, rest) := by
  obtain ⟨month, day⟩ := real.two_digits
  have whole : (date.year.toNat : Int) = date.year := Int.toNat_of_nonneg positive
  have short : date.year.toNat < 10000 := by omega
  simp only [date?, year, positive, four, and_self, if_true]
  rw [fixed?_padded (by decide) short]
  simp only [Option.bind_eq_bind, Option.bind_some, char?, if_true]
  rw [fixed?_two month]
  simp only [Option.bind_some, if_true]
  rw [fixed?_two day]
  simp only [Option.bind_some, whole]
  rfl

/-- A fraction of some digits is read as that many nanoseconds. -/
theorem fraction?_padded {count number : Nat} (written : 0 < count) (short : count ≤ 9)
    (fits : number < Nat.pow 10 count) (ends : ∀ symbol ∈ rest.head?, isDigit symbol = false) :
    fraction? ('.' :: (padded count number ++ rest)) =
      some (number * Nat.pow 10 (9 - count), rest) := by
  have length := length_padded written fits
  have kept : (padded count number).take 9 = padded count number :=
    List.take_of_length_le (Nat.le_trans (Nat.le_of_eq length) short)
  rw [fraction?, atLeast?_append (fun _ among => isDigit_of_mem_padded among)
    (length.symm ▸ written) ends]
  simp only [Option.bind_eq_bind, Option.bind_some, kept, value_padded, length]
  rfl

/-- Nanoseconds are read back from their fraction of no, three, six or nine digits. -/
theorem fraction?_written {nano : Nat} (short : nano < nanosPerSecond) :
    fraction? (fraction nano ++ 'Z' :: rest) = some (nano, 'Z' :: rest) := by
  have ends : ∀ symbol ∈ ('Z' :: rest).head?, isDigit symbol = false := by
    rintro symbol ⟨⟩
    rfl
  simp only [nanosPerSecond] at short
  unfold fraction
  split
  next whole => rw [whole]; rfl
  next =>
    split
    next millis =>
      have small : nano / 1000000 < 1000 := by omega
      have same : nano / 1000000 * 1000000 = nano := by omega
      rw [List.cons_append, fraction?_padded (by decide) (by decide) small ends]
      exact congrArg (fun read => some (read, 'Z' :: rest)) same
    next =>
      split
      next micros =>
        have small : nano / 1000 < 1000000 := by omega
        have same : nano / 1000 * 1000 = nano := by omega
        rw [List.cons_append, fraction?_padded (by decide) (by decide) small ends]
        exact congrArg (fun read => some (read, 'Z' :: rest)) same
      next =>
        rw [List.cons_append, fraction?_padded (by decide) (by decide) short ends]
        exact congrArg (fun read => some (read, 'Z' :: rest)) (Nat.mul_one nano)

/-- What is put together from a written date and time is the instant itself: a sixtieth second
is the leap second that it was written for. -/
theorem assemble?_parts (instant : Instant) {time : Nat}
    (same : time = (instant.second % 86400).toNat) :
    assemble? (Date.ofDayNumber (instant.second / 86400)) (time / 3600) (time / 60 % 60)
      (time % 60 + if instant.isLeap then 1 else 0) (instant.nano % nanosPerSecond) 0 =
        some instant := by
  obtain ⟨real, number⟩ := Date.ofDayNumber_spec (instant.second / 86400)
  have nanos := instant.nano_lt
  have fraction := instant.valid.2
  rw [assemble?, number, if_pos ⟨real, by omega, by omega, by split <;> omega⟩]
  cases leap : instant.isLeap with
  | true =>
      rw [Instant.isLeap_eq_true_iff] at leap
      simp only [nanosPerSecond] at *
      have last : time % 60 + 1 = 60 := by omega
      simp only [if_true, last, Instant.of?_eq_some_iff]
      omega
  | false =>
      rw [Instant.isLeap_eq_false_iff] at leap
      simp only [nanosPerSecond] at *
      have regular : time % 60 + 0 ≠ 60 := by omega
      simp only [Bool.false_eq_true, if_false, regular, Instant.of?_eq_some_iff]
      omega

/-- An instant of a year with four digits is read back from its written form. -/
theorem read?_write (positive : 0 ≤ instant.year) (four : instant.year ≤ 9999) :
    read? (write instant).toList = some instant := by
  obtain ⟨time, same⟩ : ∃ time, time = (instant.second % 86400).toNat := ⟨_, rfl⟩
  obtain ⟨real, _⟩ := Date.ofDayNumber_spec (instant.second / 86400)
  have sixty : (time % 60 + if instant.isLeap then 1 else 0) < 100 := by split <;> omega
  have short : instant.nano % nanosPerSecond < nanosPerSecond := Nat.mod_lt _ (by decide)
  simp only [write, writeWith, String.toList_ofList, ← same, List.append_assoc,
    List.cons_append, read?, date?_written positive four real, Option.bind_eq_bind,
    Option.bind_some]
  rw [if_pos (by decide)]
  rw [fixed?_two (by omega)]
  simp only [Option.bind_some, char?, if_true]
  rw [fixed?_two (by omega)]
  simp only [Option.bind_some, if_true]
  rw [fixed?_two sixty]
  simp only [Option.bind_some, fraction?_written short, offset?]
  exact assemble?_parts instant same

/-! ## Texts that are read -/

theorem char?_eq_some_iff {expected : Char} {symbols : List Char} :
    char? expected symbols = some rest ↔ symbols = expected :: rest := by
  cases symbols with
  | nil => simp [char?]
  | cons symbol others => simp [char?]

/-- A text that is read starts with the four digits of its year and a hyphen. -/
theorem starts_of_read? (read : read? text = some instant) :
    (∀ symbol ∈ text.take 4, isDigit symbol = true) ∧ text[4]? = some '-' := by
  obtain ⟨_, dated, _⟩ := Option.bind_eq_some_iff.mp read
  obtain ⟨⟨_, behind⟩, year, dated⟩ := Option.bind_eq_some_iff.mp dated
  obtain ⟨_, hyphen, _⟩ := Option.bind_eq_some_iff.mp dated
  rw [fixed?, Option.ite_none_right_eq_some, Option.some.injEq, Prod.mk.injEq] at year
  obtain ⟨⟨_, digits⟩, _, rfl⟩ := year
  constructor
  · exact List.all_eq_true.mp digits
  · rw [← List.head?_drop, char?_eq_some_iff.mp hyphen, List.head?_cons]

/-- A year of more digits is written behind a sign, as is a year before the first. -/
theorem signed_of_write (beyond : ¬ (0 ≤ instant.year ∧ instant.year ≤ 9999)) :
    ∃ sign others, (write instant).toList = sign :: others ∧ isDigit sign = false ∧
      '-' ∈ others := by
  simp only [Instant.year] at beyond
  simp only [write, writeWith, String.toList_ofList, year, if_neg beyond, List.append_assoc,
    List.cons_append]
  exact ⟨_, _, rfl, by split <;> rfl, by simp⟩

end Rfc3339
end Admission
