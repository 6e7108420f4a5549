import Admission.Time.Calendar

/-!
# Days and dates

Every day number is that of its date. A day is found in its cycle of four hundred years, then in
its year, then in its month, and each of the three leaves less than the length of what it found.
-/

namespace Admission.Date

/-! ## Years of a cycle -/

theorem isLeapYear_natCast_iff {index : Nat} :
    isLeapYear index = true ↔ index % 4 = 0 ∧ (index % 100 ≠ 0 ∨ index % 400 = 0) := by
  simp only [isLeapYear, Bool.and_eq_true, Bool.or_eq_true, decide_eq_true_eq, bne_iff_ne]
  omega

/-- The next year of a cycle starts 365 days later, or 366 after a leap year. -/
theorem daysBeforeYear_succ (index : Nat) :
    daysBeforeYear (index + 1) =
      daysBeforeYear index + if isLeapYear index then 366 else 365 := by
  have four : (index + 1 + 3) / 4 = (index + 3) / 4 + if index % 4 = 0 then 1 else 0 := by
    split <;> omega
  have hundred :
      (index + 1 + 99) / 100 = (index + 99) / 100 + if index % 100 = 0 then 1 else 0 := by
    split <;> omega
  have cycle :
      (index + 1 + 399) / 400 = (index + 399) / 400 + if index % 400 = 0 then 1 else 0 := by
    split <;> omega
  have fewer : (index + 99) / 100 ≤ (index + 3) / 4 := by omega
  have sometimes : index % 400 = 0 → index % 100 = 0 := by omega
  have rarely : index % 100 = 0 → index % 4 = 0 := by omega
  simp only [daysBeforeYear, four, hundred, cycle, isLeapYear_natCast_iff]
  split <;> split <;> split <;> split <;> omega

/-- The leap days before a year of a cycle are fewer than a year has days. -/
theorem daysBeforeYear_bounds {index : Nat} (within : index ≤ 400) :
    365 * index ≤ daysBeforeYear index ∧ daysBeforeYear index < 365 * (index + 1) := by
  unfold daysBeforeYear
  omega

/-- A day of a cycle lies in the year that is found for it. -/
theorem yearIndex_spec {day : Nat} (within : day < 146097) :
    yearIndex day < 400 ∧ daysBeforeYear (yearIndex day) ≤ day ∧
      day < daysBeforeYear (yearIndex day + 1) := by
  have whole : daysBeforeYear 400 = 146097 := by decide
  obtain ⟨guess, guessed⟩ : ∃ guess, guess = day / 365 := ⟨_, rfl⟩
  simp only [yearIndex, ← guessed]
  split
  · rename_i reached
    have inside : guess < 400 := by
      refine Nat.lt_of_le_of_ne (by omega) fun last => ?_
      rw [last, whole] at reached
      omega
    have next := (daysBeforeYear_bounds (by omega : guess + 1 ≤ 400)).1
    omega
  · rename_i missed
    -- The guess is too late by its leap days, so the year before it is right.
    obtain ⟨earlier, rfl⟩ : ∃ earlier, guess = earlier + 1 := by
      refine Nat.exists_eq_succ_of_ne_zero fun first => missed ?_
      rw [first]
      exact Nat.zero_le _
    have before := (daysBeforeYear_bounds (by omega : earlier ≤ 400)).2
    rw [Nat.add_sub_cancel]
    omega

/-! ## Months of a year -/

/-- The days of months together. -/
def total (lengths : List Nat) : Nat := lengths.foldl (· + ·) 0

theorem total_cons (length : Nat) (rest : List Nat) :
    total (length :: rest) = length + total rest := by
  rw [total, List.foldl_cons, Nat.add_comm, List.foldl_assoc]
  rfl

/-- A day of a year is found in a month, after as many days as the months before it have. -/
theorem monthDay_spec {lengths : List Nat} {days : Nat} (within : days < total lengths)
    (month : Nat) :
    ∃ passed, total (lengths.take passed) ≤ days ∧
      days - total (lengths.take passed) < lengths.getD passed 0 ∧
      monthDay month days lengths =
        (passed + month, days - total (lengths.take passed) + 1) := by
  induction lengths generalizing month days with
  | nil => cases within
  | cons length rest ih =>
      rw [total_cons] at within
      rw [monthDay]
      split
      next inside => exact ⟨0, Nat.zero_le _, inside, by rw [Nat.zero_add]; rfl⟩
      next beyond =>
        obtain ⟨passed, reached, inside, found⟩ :=
          ih (by omega : days - length < total rest) (month + 1)
        refine ⟨passed + 1, ?_, ?_, ?_⟩
        · rw [List.take_succ_cons, total_cons]
          omega
        · rw [List.take_succ_cons, total_cons, List.getD_cons_succ, Nat.sub_add_eq]
          exact inside
        · rw [found, List.take_succ_cons, total_cons, Nat.sub_add_eq]
          congr 1
          omega

theorem total_monthLengths (leap : Bool) :
    total (monthLengths leap) = if leap then 366 else 365 := by
  cases leap <;> rfl

theorem daysBeforeMonth_succ (leap : Bool) (passed : Nat) :
    daysBeforeMonth leap (passed + 1) = total ((monthLengths leap).take passed) := by
  rw [daysBeforeMonth, Nat.add_sub_cancel, total]

/-- A date that exists has a month and a day of two digits. -/
theorem Exists.two_digits {date : Date} (real : date.Exists) :
    date.month < 100 ∧ date.day < 100 := by
  obtain ⟨_, started, within⟩ := real
  have lengths (leap : Bool) : ∀ length ∈ monthLengths leap, length < 100 := by
    cases leap <;> decide
  have twelve (leap : Bool) : (monthLengths leap).length = 12 := by cases leap <;> rfl
  rw [List.getD_eq_getElem?_getD] at within
  cases found : (monthLengths (isLeapYear date.year))[date.month - 1]? with
  | none =>
      rw [found] at within
      exact absurd (Nat.le_trans started within) (by decide)
  | some length =>
      rw [found] at within
      have known := (List.getElem?_eq_some_iff.mp found).1
      rw [twelve] at known
      have short := lengths _ length (List.mem_of_getElem? found)
      rw [Option.getD_some] at within
      omega

/-! ## Dates of day numbers -/

/-- Whole cycles do not change which years are leap years. -/
theorem isLeapYear_cycle (cycle : Int) (index : Nat) :
    isLeapYear (cycle * 400 + index) = isLeapYear index := by
  have four : (cycle * 400 + index) % 4 = index % 4 := by omega
  have hundred : (cycle * 400 + index) % 100 = index % 100 := by omega
  have whole : (cycle * 400 + index) % 400 = index % 400 := by omega
  rw [isLeapYear, isLeapYear, four, hundred, whole]

/-- The number of a day in a year of a cycle. -/
theorem dayNumber_cycle {index : Nat} (early : index < 400) (cycle : Int) (passed day : Nat) :
    dayNumber ⟨cycle * 400 + index, passed + 1, day⟩ =
      cycle * 146097 + daysBeforeYear index +
        total ((monthLengths (isLeapYear index)).take passed) + day - 1 - epochOffset := by
  have whole : (cycle * 400 + index) / 400 = cycle := by omega
  have rest : ((cycle * 400 + index) % 400).toNat = index := by omega
  simp only [dayNumber, whole, rest, isLeapYear_cycle, daysBeforeMonth_succ]

/-- The date of a day number exists, and its day has that number. -/
theorem ofDayNumber_spec (number : Int) :
    (ofDayNumber number).Exists ∧ (ofDayNumber number).dayNumber = number := by
  obtain ⟨shifted, same⟩ : ∃ shifted, shifted = number + epochOffset := ⟨_, rfl⟩
  obtain ⟨day, inCycle⟩ : ∃ day, day = (shifted % 146097).toNat := ⟨_, rfl⟩
  obtain ⟨index, found⟩ : ∃ index, index = yearIndex day := ⟨_, rfl⟩
  obtain ⟨early, reached, inside⟩ := yearIndex_spec (by omega : day < 146097)
  rw [← found] at early reached inside
  have inYear : day - daysBeforeYear index < total (monthLengths (isLeapYear index)) := by
    rw [daysBeforeYear_succ] at inside
    rw [total_monthLengths]
    omega
  obtain ⟨passed, monthReached, inMonth, monthFound⟩ := monthDay_spec inYear 1
  simp only [ofDayNumber, ← same, ← inCycle, ← found, isLeapYear_cycle, monthFound]
  -- What was taken off for the cycle, the year and the month adds up to the number again.
  constructor
  · refine ⟨Nat.le_add_left 1 passed, Nat.le_add_left 1 _, ?_⟩
    simp only [isLeapYear_cycle, Nat.add_sub_cancel]
    exact inMonth
  · rw [dayNumber_cycle early]
    omega

end Admission.Date
