import Admission.Text.Decimal

/-!
# Decimal numerals read back

A number is read back from its digits: from a field of fixed width, from digits up to another
character, and from a whole text within bounds.
-/

namespace Admission.Decimal

variable {least bound width total number : Nat} {integer : Int} {symbol : Char}
  {digits rest : List Char} {text : String}

/-! ## Digits -/

theorem isDigit_of_mem_toDigits (among : symbol ∈ Nat.toDigits 10 number) :
    isDigit symbol = true :=
  Nat.isDigit_of_mem_toDigits (by decide) (by decide) among

theorem value_eq_ofDigitChars (digits : List Char) :
    value digits = Nat.ofDigitChars 10 digits 0 := by
  rw [Nat.ofDigitChars_eq_foldl]
  simp only [value, digitValue, Nat.mul_comm]
  rfl

theorem isDigit_of_mem_padded (among : symbol ∈ padded width number) :
    isDigit symbol = true := by
  rcases List.mem_append.mp among with zero | among
  · rw [List.eq_of_mem_replicate zero]
    rfl
  · exact isDigit_of_mem_toDigits among

/-- Zeros on the left do not count. -/
theorem value_padded (width number : Nat) : value (padded width number) = number := by
  have zeros (count : Nat) : Nat.ofDigitChars 10 (List.replicate count '0') 0 = 0 := by
    induction count with
    | zero => rfl
    | succ count ih =>
        rw [List.replicate_succ, Nat.ofDigitChars_cons]
        exact ih
  rw [value_eq_ofDigitChars, padded, Nat.ofDigitChars_append, zeros,
    Nat.ofDigitChars_ten_toDigits]

theorem length_padded (wide : 0 < width) (fits : number < Nat.pow 10 width) :
    (padded width number).length = width := by
  have short := (Nat.length_toDigits_le_iff (by decide : 1 < 10) wide).mpr fits
  rw [padded, List.length_append, List.length_replicate]
  omega

/-! ## Fields -/

/-- A field of fixed width is read back, whatever follows it. -/
theorem fixed?_padded (wide : 0 < width) (fits : number < Nat.pow 10 width) (rest : List Char) :
    fixed? width (padded width number ++ rest) = some (number, rest) := by
  have length := length_padded wide fits
  have digits : (padded width number).all isDigit = true :=
    List.all_eq_true.mpr fun symbol among => isDigit_of_mem_padded among
  rw [fixed?, List.take_left' length, List.drop_left' length, if_pos ⟨length, digits⟩,
    value_padded]

/-- A field of two digits is read back, as those of months, days, hours, minutes and seconds. -/
theorem fixed?_two (small : number < 100) (rest : List Char) :
    fixed? 2 (padded 2 number ++ rest) = some (number, rest) :=
  fixed?_padded (by decide) small rest

/-- Digits are read up to another character or the end. -/
theorem atLeast?_append (all : ∀ symbol ∈ digits, isDigit symbol = true)
    (enough : least ≤ digits.length) (ends : ∀ symbol ∈ rest.head?, isDigit symbol = false) :
    atLeast? least (digits ++ rest) = some (digits, rest) := by
  have stops : rest.takeWhile isDigit = [] ∧ rest.dropWhile isDigit = rest := by
    cases rest with
    | nil => exact ⟨rfl, rfl⟩
    | cons symbol rest =>
        have other : ¬ isDigit symbol = true := by simp [ends symbol rfl]
        exact ⟨List.takeWhile_cons_of_neg other, List.dropWhile_cons_of_neg other⟩
  rw [atLeast?, List.takeWhile_append_of_pos all, List.dropWhile_append_of_pos all, stops.1,
    stops.2, List.append_nil, if_pos enough]

/-! ## Whole texts -/

/-- Further digits never make a number smaller. -/
theorem le_ofDigitChars (digits : List Char) (total : Nat) :
    total ≤ Nat.ofDigitChars 10 digits total := by
  induction digits generalizing total with
  | nil => exact Nat.le_refl _
  | cons symbol rest ih =>
      rw [Nat.ofDigitChars_cons]
      have := ih (10 * total + (symbol.toNat - '0'.toNat))
      omega

/-- Digits alone are accumulated, to the number that they spell, when it is within the bound. -/
theorem accumulate_eq_ok_iff (small : total ≤ bound) :
    accumulate bound total digits = .ok number ↔
      (∀ symbol ∈ digits, isDigit symbol = true) ∧
        Nat.ofDigitChars 10 digits total = number ∧ number ≤ bound := by
  induction digits generalizing total with
  | nil =>
      simp only [accumulate, Except.ok.injEq, List.not_mem_nil, false_implies, implies_true,
        true_and, Nat.ofDigitChars_nil]
      constructor
      · rintro rfl
        exact ⟨rfl, small⟩
      · exact And.left
  | cons symbol rest ih =>
      have next : 10 * total + (symbol.toNat - '0'.toNat) = total * 10 + digitValue symbol := by
        rw [Nat.mul_comm]
        rfl
      rw [accumulate, Nat.ofDigitChars_cons, next, List.forall_mem_cons]
      by_cases digit : isDigit symbol = true
      · rw [if_pos digit]
        by_cases fits : total * 10 + digitValue symbol ≤ bound
        · simp only [fits, if_true, ih fits, digit, true_and]
        · -- A prefix beyond the bound leaves no number within it.
          simp only [fits, if_false, reduceCtorEq, false_iff]
          rintro ⟨_, rfl, within⟩
          exact fits (Nat.le_trans (le_ofDigitChars _ _) within)
      · rw [if_neg digit]
        simp only [digit, reduceCtorEq, false_and, Bool.false_eq_true]

/-- A numeral is read within its bound. -/
theorem natural_le (read : natural bound text = .ok number) : number ≤ bound := by
  unfold natural at read
  split at read
  · cases read
  · cases read
  · exact ((accumulate_eq_ok_iff (Nat.zero_le _)).mp read).2.2
  · exact ((accumulate_eq_ok_iff (Nat.zero_le _)).mp read).2.2

/-- After its first character, which may be a sign, the text of an integer is all digits. -/
theorem isDigit_of_integer64? (read : integer64? text = some integer) :
    ∀ symbol ∈ text.toList.tail, isDigit symbol = true := by
  have digits {bound : Nat} {symbols : List Char} {map : Nat → Int}
      (read : (accumulate bound 0 symbols).toOption.map map = some integer) :
      ∀ symbol ∈ symbols, isDigit symbol = true := by
    cases outcome : accumulate bound 0 symbols with
    | error fault => rw [outcome] at read; cases read
    | ok number => exact ((accumulate_eq_ok_iff (Nat.zero_le _)).mp outcome).1
  unfold integer64? at read
  split at read
  · cases read
  next spelled => rw [spelled]; exact fun _ among => absurd among List.not_mem_nil
  next spelled => rw [spelled]; exact digits read
  next spelled => rw [spelled]; exact digits read
  · exact fun symbol among => digits read symbol (List.mem_of_mem_tail among)

/-- Digits without a sign are read as the number that they spell. -/
theorem integer64?_digits (spelled : text.toList = digits) (written : digits ≠ [])
    (all : ∀ symbol ∈ digits, isDigit symbol = true)
    (fits : Nat.ofDigitChars 10 digits 0 ≤ Nat.pow 2 63 - 1) :
    integer64? text = some (Nat.ofDigitChars 10 digits 0) := by
  unfold integer64?
  split
  next empty => exact absurd (spelled ▸ empty) written
  next single alone =>
    rw [spelled] at alone
    subst alone
    rw [if_pos (all single List.mem_cons_self), Nat.ofDigitChars_cons]
    simp [digitValue]
  next signed =>
    rw [spelled] at signed
    subst signed
    exact absurd (all _ List.mem_cons_self) (by decide)
  next signed =>
    rw [spelled] at signed
    subst signed
    exact absurd (all _ List.mem_cons_self) (by decide)
  · rw [spelled, (accumulate_eq_ok_iff (Nat.zero_le _)).mpr ⟨all, rfl, fits⟩]
    rfl

/-- Digits behind a minus sign are read as the number below zero that they spell. -/
theorem integer64?_minus (spelled : text.toList = '-' :: digits) (written : digits ≠ [])
    (all : ∀ symbol ∈ digits, isDigit symbol = true)
    (fits : Nat.ofDigitChars 10 digits 0 ≤ Nat.pow 2 63) :
    integer64? text = some (-Nat.ofDigitChars 10 digits 0 : Int) := by
  obtain ⟨first, later, rfl⟩ := List.exists_cons_of_ne_nil written
  simp only [integer64?, spelled, (accumulate_eq_ok_iff (Nat.zero_le _)).mpr ⟨all, rfl, fits⟩]
  rfl

/-- An integer of 64 bits is read back from its text. -/
theorem integer64?_toString (lower : -(Nat.pow 2 63 : Int) ≤ integer)
    (upper : integer < Nat.pow 2 63) :
    integer64? (toString integer) = some integer := by
  have bound : Nat.pow 2 63 = 9223372036854775808 := by decide
  rw [bound] at lower upper
  have digits (number : Nat) : ∀ symbol ∈ Nat.toDigits 10 number, isDigit symbol = true :=
    fun _ among => isDigit_of_mem_toDigits among
  have spells (number : Nat) : Nat.ofDigitChars 10 (Nat.toDigits 10 number) 0 = number :=
    Nat.ofDigitChars_ten_toDigits
  cases integer with
  | ofNat number =>
      have spelled : (toString (Int.ofNat number)).toList = Nat.toDigits 10 number :=
        Nat.toList_repr
      rw [integer64?_digits spelled Nat.toDigits_ne_nil (digits number), spells]
      · rfl
      · rw [Int.ofNat_eq_natCast] at upper
        rw [spells, bound]
        omega
  | negSucc number =>
      have spelled : (toString (Int.negSucc number)).toList =
          '-' :: Nat.toDigits 10 (number + 1) :=
        (String.toList_append ..).trans (congrArg ('-' :: ·) Nat.toList_repr)
      rw [integer64?_minus spelled Nat.toDigits_ne_nil (digits _), spells]
      · rfl
      · rw [spells, bound]
        omega

end Admission.Decimal
