import Mathlib
import Tablesmith.Proofs.Calendar.Reading

/-!
# Counting days

The days up to a date are those of the years before its year, of the months before its
month, and of its month. So every date that exists has a number of its own
(`Date.dayNumber_inj`), and `Date.ofDayNumber` finds the date of every number
(`Date.dayNumber_ofDayNumber`). The calendar day after a date has the next number
(`Date.dayNumber_next`). Of two dates whose years have four digits the earlier one is
the smaller text (`Date.text_append_lt`): year, month and day stand in this order, each
with as many digits in every date.
-/

namespace Tablesmith.Calendar

variable {year : Int} {month : Nat}

/-- The days before a year, counted from the first of January of the year 0, which is a leap year. -/
def daysBeforeYear (year : Int) : Int :=
  365 * year + ((year - 1) / 4 - (year - 1) / 100 + (year - 1) / 400 + 1)

theorem isLeapYear_iff : isLeapYear year = true ↔ year % 4 = 0 ∧ (year % 100 ≠ 0 ∨ year % 400 = 0) := by
  simp [isLeapYear]

theorem daysBeforeYear_succ (year : Int) :
    daysBeforeYear (year + 1) = daysBeforeYear year + if isLeapYear year then 366 else 365 := by
  simp only [daysBeforeYear, isLeapYear_iff]
  split <;> omega

theorem daysBeforeYear_mono : Monotone daysBeforeYear := by
  apply monotone_int_of_le_succ
  intro year
  rw [daysBeforeYear_succ]
  split <;> omega

/-- The days of a year before a month. -/
def daysBeforeMonth (year : Int) (month : Nat) : Nat :=
  ((List.range (month - 1)).map fun earlier => daysInMonth year (earlier + 1)).sum

theorem daysBeforeMonth_succ (some_month : 1 ≤ month) :
    daysBeforeMonth year (month + 1) = daysBeforeMonth year month + daysInMonth year month := by
  obtain ⟨earlier, rfl⟩ : ∃ earlier, month = earlier + 1 := ⟨month - 1, by omega⟩
  simp [daysBeforeMonth, List.range_succ]

theorem daysBeforeMonth_mono (year : Int) : Monotone (daysBeforeMonth year) := by
  apply monotone_nat_of_le_succ
  intro month
  rcases Nat.eq_zero_or_pos month with rfl | positive
  · exact le_rfl
  · rw [daysBeforeMonth_succ positive]
    exact Nat.le_add_right _ _

/-- The months of a year make up the year. -/
theorem daysBeforeMonth_end (year : Int) :
    daysBeforeYear year + daysBeforeMonth year 13 = daysBeforeYear (year + 1) := by
  rw [daysBeforeYear_succ]
  have months : daysBeforeMonth year 13 = if isLeapYear year then 366 else 365 := by
    simp only [daysBeforeMonth, List.range, List.range.loop, List.map, List.sum_cons, List.sum_nil, daysInMonth]
    cases isLeapYear year <;> rfl
  rw [months]
  split <;> rfl

/-- From March to December the lengths of the months follow one rule. -/
theorem daysInMonth_march (year : Int) {month : Nat} (before_january : month < 10) :
    (153 * month + 2) / 5 + daysInMonth year (month + 3) = (153 * (month + 1) + 2) / 5 := by
  interval_cases month <;> rfl

theorem daysBeforeMonth_march (year : Int) {month : Nat} (before_january : month < 10) :
    daysBeforeMonth year (month + 3) = daysBeforeMonth year 3 + (153 * month + 2) / 5 := by
  induction month with
  | zero => rfl
  | succ month ih =>
    have earlier : month < 10 := Nat.lt_of_succ_lt before_january
    rw [daysBeforeMonth_succ (by omega), ih earlier, Nat.add_assoc, daysInMonth_march year earlier]

theorem daysBeforeMonth_three (year : Int) : daysBeforeMonth year 3 = if isLeapYear year then 60 else 59 := by
  simp only [daysBeforeMonth, List.range, List.range.loop, List.map, List.sum_cons, List.sum_nil, daysInMonth]
  cases isLeapYear year <;> rfl

namespace Date

/-- The month is one of twelve and has such a day. -/
def Exists (date : Date) : Prop :=
  (1 ≤ date.month ∧ date.month ≤ 12) ∧ 1 ≤ date.day ∧ date.day ≤ daysInMonth date.year date.month

/-- The days from the first of January of the year 0 to the day that counts as day 0. -/
def yearOrigin : Int := originShift + 60

/-- How many days a date is after 1899-12-30. -/
def dayNumber (date : Date) : Int :=
  daysBeforeYear date.year + daysBeforeMonth date.year date.month + (date.day - 1) - yearOrigin

end Date

/-- The days before a year that begins in March, counted from the first of March of the year 0. -/
def daysBeforeMarch (year : Int) : Int :=
  365 * year + year / 4 - year / 100 + year / 400

/-- March, April and so on are the last 306 days of a year. -/
theorem daysBeforeMarch_eq (year : Int) : daysBeforeYear (year + 1) = daysBeforeMarch year + 366 := by
  unfold daysBeforeYear daysBeforeMarch
  omega

theorem daysBeforeMarch_succ (year : Int) :
    daysBeforeMarch (year + 1) = daysBeforeMarch year + if isLeapYear (year + 1) then 366 else 365 := by
  have begins := daysBeforeMarch_eq year
  have ends := daysBeforeMarch_eq (year + 1)
  have step := daysBeforeYear_succ (year + 1)
  omega

/-- The number of a day of 400 years, without the leap days before it. -/
def commonDay (day : Int) : Int :=
  day - day / 1460 + day / 36524 - day / 146096

theorem commonDay_mono {day later : Int} (ordered : day ≤ later) : commonDay day ≤ commonDay later := by
  -- A leap day is left out where four centuries are complete, and there a century is complete too.
  have eras (day : Int) : day / 146096 = day / 36524 / 4 := by omega
  have centuries : day / 36524 ≤ later / 36524 := Int.ediv_le_ediv (by decide) ordered
  have years : day - day / 1460 ≤ later - later / 1460 := by omega
  unfold commonDay
  rw [eras day, eras later]
  generalize day / 36524 = day_centuries at *
  generalize later / 36524 = later_centuries at *
  omega

/-- Without the leap days every year has 365 days. -/
theorem commonDay_bounds : ∀ year : Fin 400, 365 * (year : Int) ≤ commonDay (daysBeforeMarch year) ∧
    commonDay (daysBeforeMarch (year + 1) - 1) < 365 * ((year : Int) + 1) := by
  decide +kernel

theorem daysBeforeMarch_bounds : ∀ year : Fin 400, 0 ≤ daysBeforeMarch year ∧
    daysBeforeMarch year < daysBeforeMarch (year + 1) ∧ daysBeforeMarch (year + 1) ≤ Date.daysInEra := by
  decide +kernel

/-- The year of a day is found by a division. -/
theorem yearOfEra_bounds {day : Int} (first : 0 ≤ day) (last : day < Date.daysInEra) :
    (0 ≤ commonDay day / 365 ∧ commonDay day / 365 < 400) ∧
      daysBeforeMarch (commonDay day / 365) ≤ day ∧ day < daysBeforeMarch (commonDay day / 365 + 1) := by
  have least : 0 ≤ commonDay day := commonDay_mono first
  have greatest : commonDay day ≤ commonDay 146096 := commonDay_mono (Int.le_of_lt_add_one last)
  have value : commonDay 146096 = 145999 := rfl
  obtain ⟨year, year_eq⟩ : ∃ year : Fin 400, (year : Int) = commonDay day / 365 :=
    ⟨⟨(commonDay day / 365).toNat, by omega⟩, by simp; omega⟩
  rw [← year_eq]
  refine ⟨by omega, ?_, ?_⟩
  · by_contra early
    -- The day would be one of the years before.
    obtain ⟨before, before_eq⟩ : ∃ before : Fin 400, (before : Int) + 1 = year := by
      have some_year : (year : Int) ≠ 0 := by
        intro zero
        rw [zero] at early
        exact early first
      exact ⟨⟨year - 1, by omega⟩, by simp; omega⟩
    have bound := (commonDay_bounds before).2
    have within := daysBeforeMarch_bounds before
    have mono := commonDay_mono (show day ≤ daysBeforeMarch (before + 1) - 1 by rw [before_eq]; omega)
    omega
  · by_contra late
    have within := daysBeforeMarch_bounds year
    have inside : (year : Int) + 1 < 400 := by
      by_contra outside
      have last_year : (year : Int) + 1 = 400 := by omega
      rw [last_year] at late
      exact late last
    obtain ⟨after, after_eq⟩ : ∃ after : Fin 400, (after : Int) = year + 1 := ⟨⟨year + 1, by omega⟩, by simp⟩
    have bound := (commonDay_bounds after).1
    rw [after_eq] at bound
    have mono := commonDay_mono (show daysBeforeMarch (year + 1) ≤ day by omega)
    omega

namespace Date

/-- The date of a day of a year that begins in March. -/
def ofMarchDay (year dayOfYear : Int) : Date :=
  let monthFromMarch := (5 * dayOfYear + 2) / 153
  let day := dayOfYear - (153 * monthFromMarch + 2) / 5 + 1
  let month := if monthFromMarch < 10 then monthFromMarch + 3 else monthFromMarch - 9
  { year := year + if month ≤ 2 then 1 else 0
    month := month.toNat
    day := day.toNat }

theorem ofDayNumber_eq (number : Int) :
    let day := (number + originShift) % daysInEra
    let year := commonDay day / 365
    ofDayNumber number = ofMarchDay (year + (number + originShift) / daysInEra * 400)
      (day - (365 * year + year / 4 - year / 100)) := rfl

/-- From March to December the year is the one that the days are counted in. -/
theorem ofMarchDay_of_lt {month offset : Nat} (before_january : month < 10)
    (within : (153 * month + 2) / 5 + offset < (153 * (month + 1) + 2) / 5) :
    ofMarchDay year ((153 * month + 2) / 5 + offset : Nat) = ⟨year, month + 3, offset + 1⟩ := by
  have month_eq : (5 * ((153 * month + 2) / 5 + offset : Nat) + 2 : Int) / 153 = month := by omega
  have earlier : (month : Int) < 10 := by omega
  have later : ¬(month : Int) + 3 ≤ 2 := by omega
  simp only [ofMarchDay, month_eq, if_pos earlier, if_neg later, Date.mk.injEq]
  omega

/-- January and February belong to the next year. -/
theorem ofMarchDay_of_le {month offset : Nat} (from_january : 10 ≤ month) (to_february : month < 12)
    (within : (153 * month + 2) / 5 + offset < (153 * (month + 1) + 2) / 5) :
    ofMarchDay year ((153 * month + 2) / 5 + offset : Nat) = ⟨year + 1, month - 9, offset + 1⟩ := by
  have month_eq : (5 * ((153 * month + 2) / 5 + offset : Nat) + 2 : Int) / 153 = month := by omega
  have later : ¬(month : Int) < 10 := by omega
  have earlier : (month : Int) - 9 ≤ 2 := by omega
  simp only [ofMarchDay, month_eq, if_pos earlier, if_neg later, Date.mk.injEq, true_and]
  omega

/-- A day of a year that begins in March is a day of the calendar. -/
theorem exists_ofMarchDay {day : Int} (first : 0 ≤ day) (last : day < if isLeapYear (year + 1) then 366 else 365) :
    (ofMarchDay year day).Exists ∧
      (ofMarchDay year day).dayNumber + yearOrigin = daysBeforeYear (year + 1) - 306 + day := by
  obtain ⟨month, month_eq⟩ : ∃ month : Nat, (5 * day + 2) / 153 = month := Int.eq_ofNat_of_zero_le (by omega)
  obtain ⟨offset, rfl⟩ : ∃ offset : Nat, day = ((153 * month + 2) / 5 + offset : Nat) :=
    ⟨(day - (153 * (month : Int) + 2) / 5).toNat, by omega⟩
  have within : (153 * month + 2) / 5 + offset < (153 * (month + 1) + 2) / 5 := by omega
  by_cases before_january : month < 10
  · have length := daysInMonth_march year before_january
    have before := daysBeforeMonth_march year before_january
    have spring := daysBeforeMonth_three year
    have year_length := daysBeforeYear_succ year
    rw [ofMarchDay_of_lt before_january within]
    refine ⟨⟨⟨Nat.le_add_left _ _, Nat.add_le_add_right before_january.le_pred 3⟩, Nat.le_add_left _ _, ?_⟩, ?_⟩
    · dsimp only
      omega
    · dsimp only [dayNumber]
      cases leap : isLeapYear year
      · rw [leap, if_neg Bool.false_ne_true] at spring year_length
        omega
      · rw [leap, if_pos rfl] at spring year_length
        omega
  · have to_february : month < 12 := by split at last <;> omega
    rw [ofMarchDay_of_le (Nat.le_of_not_lt before_january) to_february within]
    obtain rfl | rfl : month = 10 ∨ month = 11 := by omega
    · have none_before : daysBeforeMonth (year + 1) 1 = 0 := rfl
      have length : daysInMonth (year + 1) 1 = 31 := rfl
      refine ⟨⟨show 1 ≤ 10 - 9 ∧ 10 - 9 ≤ 12 by decide, Nat.le_add_left _ _, ?_⟩, ?_⟩
      · show offset + 1 ≤ daysInMonth (year + 1) 1
        omega
      · show daysBeforeYear (year + 1) + (daysBeforeMonth (year + 1) 1 : Nat) + ((offset + 1 : Nat) - 1) - yearOrigin + yearOrigin = _
        omega
    · have january_before : daysBeforeMonth (year + 1) 2 = 31 := rfl
      have length : daysInMonth (year + 1) 2 = if isLeapYear (year + 1) then 29 else 28 := rfl
      refine ⟨⟨show 1 ≤ 11 - 9 ∧ 11 - 9 ≤ 12 by decide, Nat.le_add_left _ _, ?_⟩, ?_⟩
      · show offset + 1 ≤ daysInMonth (year + 1) 2
        cases leap : isLeapYear (year + 1)
        · rw [leap, if_neg Bool.false_ne_true] at last length
          omega
        · rw [leap, if_pos rfl] at last length
          omega
      · show daysBeforeYear (year + 1) + (daysBeforeMonth (year + 1) 2 : Nat) + ((offset + 1 : Nat) - 1) - yearOrigin + yearOrigin = _
        omega

/-- The date of a day number exists and has that number. -/
theorem dayNumber_ofDayNumber (number : Int) : (ofDayNumber number).Exists ∧ (ofDayNumber number).dayNumber = number := by
  have era_days : 0 < daysInEra := by decide
  have first := Int.emod_nonneg (number + originShift) era_days.ne'
  have last := Int.emod_lt_of_pos (number + originShift) era_days
  have whole := Int.emod_add_mul_ediv (number + originShift) daysInEra
  obtain ⟨⟨some_year, few_years⟩, after, before⟩ := yearOfEra_bounds first last
  have parts := ofDayNumber_eq number
  dsimp only at parts
  generalize (number + originShift) % daysInEra = day at *
  generalize (number + originShift) / daysInEra = era at *
  generalize commonDay day / 365 = year at *
  have year_length := daysBeforeMarch_succ year
  -- After 400 years the calendar repeats.
  have leap : isLeapYear (year + era * 400 + 1) = isLeapYear (year + 1) := by
    rw [Bool.eq_iff_iff, isLeapYear_iff, isLeapYear_iff]
    omega
  have dayOfYear_eq : day - (365 * year + year / 4 - year / 100) = day - daysBeforeMarch year := by
    unfold daysBeforeMarch
    omega
  have march := daysBeforeMarch_eq (year + era * 400)
  have eras : daysBeforeMarch (year + era * 400) = daysBeforeMarch year + daysInEra * era := by
    unfold daysBeforeMarch daysInEra
    omega
  have within : day - daysBeforeMarch year < if isLeapYear (year + era * 400 + 1) then 366 else 365 := by
    rw [leap]
    omega
  obtain ⟨exist, count⟩ := exists_ofMarchDay (by omega) within
  rw [parts, dayOfYear_eq]
  refine ⟨exist, ?_⟩
  unfold yearOrigin at count
  omega

variable {date other : Date}

theorem dayOfYear_bounds (exist : date.Exists) :
    daysBeforeMonth date.year date.month + date.day ≤ daysBeforeMonth date.year (date.month + 1) := by
  rw [daysBeforeMonth_succ exist.1.1]
  exact Nat.add_le_add_left exist.2.2 _

theorem dayNumber_bounds (exist : date.Exists) :
    daysBeforeYear date.year ≤ date.dayNumber + yearOrigin ∧ date.dayNumber + yearOrigin < daysBeforeYear (date.year + 1) := by
  have within := dayOfYear_bounds exist
  have months : daysBeforeMonth date.year (date.month + 1) ≤ daysBeforeMonth date.year 13 :=
    daysBeforeMonth_mono date.year (Nat.succ_le_succ exist.1.2)
  have year_end := daysBeforeMonth_end date.year
  have some_day := exist.2.1
  unfold dayNumber
  omega

theorem year_le_of_dayNumber_le (exist : date.Exists) (other_exist : other.Exists) (order : date.dayNumber ≤ other.dayNumber) :
    date.year ≤ other.year := by
  by_contra later
  have years := daysBeforeYear_mono (show other.year + 1 ≤ date.year by omega)
  have bounds := dayNumber_bounds exist
  have other_bounds := dayNumber_bounds other_exist
  omega

theorem month_le_of_dayNumber_le (exist : date.Exists) (other_exist : other.Exists) (years : date.year = other.year)
    (order : date.dayNumber ≤ other.dayNumber) : date.month ≤ other.month := by
  by_contra later
  have months := daysBeforeMonth_mono other.year (show other.month + 1 ≤ date.month by omega)
  have within := dayOfYear_bounds other_exist
  have some_day := exist.2.1
  unfold dayNumber at order
  rw [years] at order
  omega

/-- No two dates have one number. -/
theorem dayNumber_inj (exist : date.Exists) (other_exist : other.Exists) (same : date.dayNumber = other.dayNumber) :
    date = other := by
  have years : date.year = other.year :=
    le_antisymm (year_le_of_dayNumber_le exist other_exist same.le) (year_le_of_dayNumber_le other_exist exist same.ge)
  have months : date.month = other.month :=
    le_antisymm (month_le_of_dayNumber_le exist other_exist years same.le)
      (month_le_of_dayNumber_le other_exist exist years.symm same.ge)
  have days : date.day = other.day := by
    have some_day := exist.2.1
    have other_day := other_exist.2.1
    unfold dayNumber at same
    rw [years, months] at same
    omega
  cases date
  cases other
  simp_all

/-- A day number has a date exactly if a date within bounds has that number. -/
theorem ofDayNumber?_eq_some_iff {number : Int} :
    ofDayNumber? number = some date ↔ date.isValid = true ∧ date.dayNumber = number := by
  obtain ⟨exist, count⟩ := dayNumber_ofDayNumber number
  simp only [ofDayNumber?, Option.ite_none_right_eq_some, Option.some.injEq]
  constructor
  · rintro ⟨bounds, rfl⟩
    exact ⟨isValid_iff.mpr ⟨bounds, exist⟩, count⟩
  · rintro ⟨valid, same⟩
    obtain ⟨bounds, date_exist⟩ := isValid_iff.mp valid
    obtain rfl := dayNumber_inj date_exist exist (same.trans count.symm)
    exact ⟨bounds, rfl⟩

end Date

end Tablesmith.Calendar

namespace Tablesmith.Number

variable {left right rest others : List Char} {width m n : Nat}

/-- Of two runs of digits of one length the one that writes less comes first, whatever follows them. -/
theorem append_lt_of_ofDigitChars_lt (left_digits : ∀ c ∈ left, c.isDigit = true) (right_digits : ∀ c ∈ right, c.isDigit = true)
    (same_length : left.length = right.length) (less : Nat.ofDigitChars 10 left 0 < Nat.ofDigitChars 10 right 0) :
    left ++ rest < right ++ others := by
  induction left generalizing right with
  | nil =>
    rw [List.length_eq_zero_iff.mp same_length.symm] at less
    exact absurd less (lt_irrefl _)
  | cons c left ih =>
    obtain _ | ⟨d, right⟩ := right
    · cases same_length
    · obtain ⟨digit, left_rest⟩ := List.forall_mem_cons.mp left_digits
      obtain ⟨other, right_rest⟩ := List.forall_mem_cons.mp right_digits
      have lengths : left.length = right.length := by simpa using same_length
      have right_lt := ofDigitChars_lt right_rest
      rw [ofDigitChars_cons_zero, ofDigitChars_cons_zero, lengths] at less
      rw [List.cons_append, List.cons_append, List.cons_lt_cons_iff]
      by_cases first : c.toNat - '0'.toNat = d.toNat - '0'.toNat
      · rw [first] at less
        exact Or.inr ⟨digit_inj digit other first, ih left_rest right_rest lengths (Nat.lt_of_add_lt_add_left less)⟩
      · left
        show c.toNat < d.toNat
        by_contra greater
        have more : d.toNat - '0'.toNat + 1 ≤ c.toNat - '0'.toNat := by omega
        have much := Nat.mul_le_mul_left (10 ^ right.length) more
        rw [Nat.mul_add, Nat.mul_one] at much
        omega

/-- In fields of one width the smaller number comes first, whatever follows the fields. -/
theorem showPadded_append_lt (some_width : 0 < width) (less : m < n) (small : n < 10 ^ width) :
    (showPadded width m).toList ++ rest < (showPadded width n).toList ++ others := by
  have value (number : Nat) : Nat.ofDigitChars 10 (showPadded width number).toList 0 = number :=
    (readDigits?_eq_some_iff.mp (readDigits?_showPadded width number)).2.2
  apply append_lt_of_ofDigitChars_lt (fun c => isDigit_of_mem_showPadded) (fun c => isDigit_of_mem_showPadded)
  · rw [length_showPadded some_width (less.trans small), length_showPadded some_width small]
  · rwa [value, value]

end Tablesmith.Number

namespace Tablesmith.Calendar.Date

open Number

variable {date other : Date}

/-- The calendar day after a date. -/
def next (date : Date) : Date :=
  if date.day < daysInMonth date.year date.month then { date with day := date.day + 1 }
  else if date.month < 12 then ⟨date.year, date.month + 1, 1⟩
  else ⟨date.year + 1, 1, 1⟩

theorem daysInMonth_pos (year : Int) (month : Nat) : 1 ≤ daysInMonth year month := by
  unfold daysInMonth
  split_ifs <;> decide

theorem exists_next (exist : date.Exists) : date.next.Exists := by
  obtain ⟨⟨some_month, few_months⟩, some_day, few_days⟩ := exist
  unfold next
  split_ifs with within earlier
  · exact ⟨⟨some_month, few_months⟩, Nat.le_add_left _ _, within⟩
  · exact ⟨⟨Nat.le_add_left _ _, earlier⟩, le_rfl, daysInMonth_pos _ _⟩
  · have first_month : 1 ≤ 12 := by decide
    exact ⟨⟨le_rfl, first_month⟩, le_rfl, daysInMonth_pos _ _⟩

theorem dayNumber_next (exist : date.Exists) : date.next.dayNumber = date.dayNumber + 1 := by
  obtain ⟨⟨some_month, few_months⟩, some_day, few_days⟩ := exist
  unfold next
  split_ifs with within earlier
  · simp only [dayNumber]
    omega
  · have month_length : daysBeforeMonth date.year (date.month + 1) =
        daysBeforeMonth date.year date.month + daysInMonth date.year date.month := daysBeforeMonth_succ some_month
    simp only [dayNumber]
    omega
  · have last_month : date.month = 12 := by omega
    have december : daysBeforeMonth date.year 13 = daysBeforeMonth date.year 12 + daysInMonth date.year 12 :=
      daysBeforeMonth_succ (by decide)
    have year_length := daysBeforeMonth_end date.year
    have first_month : daysBeforeMonth (date.year + 1) 1 = 0 := rfl
    rw [last_month] at within few_days
    simp only [dayNumber, last_month, first_month]
    omega

theorem year_next (date : Date) : date.next.year = date.year ∨ date.next.year = date.year + 1 := by
  unfold next
  split_ifs <;> simp

/-- The earlier of two dates has the smaller year, in one year the smaller month, and in one month the smaller day. -/
theorem lt_of_dayNumber_lt (exist : date.Exists) (other_exist : other.Exists) (earlier : date.dayNumber < other.dayNumber) :
    date.year < other.year ∨ date.year = other.year ∧
      (date.month < other.month ∨ date.month = other.month ∧ date.day < other.day) := by
  rcases (year_le_of_dayNumber_le exist other_exist earlier.le).lt_or_eq with years | years
  · exact Or.inl years
  · rcases (month_le_of_dayNumber_le exist other_exist years earlier.le).lt_or_eq with months | months
    · exact Or.inr ⟨years, Or.inl months⟩
    · unfold dayNumber at earlier
      rw [years, months] at earlier
      exact Or.inr ⟨years, Or.inr ⟨months, by omega⟩⟩

/-- The year has four digits. -/
def HasFourDigits (date : Date) : Prop :=
  0 ≤ date.year ∧ date.year ≤ 9999

theorem toList_text_of_hasFourDigits (four : date.HasFourDigits) : date.text.toList =
    (showPadded 4 date.year.toNat).toList ++
      '-' :: ((showPadded 2 date.month).toList ++ '-' :: (showPadded 2 date.day).toList) := by
  have years : 0 ≤ date.year ∧ date.year ≤ 9999 := four
  rw [toList_text, yearText, if_pos years]

/-- The text of an earlier date is smaller, whatever follows both. -/
theorem text_append_lt {rest : List Char} (exist : date.Exists) (other_exist : other.Exists) (four : date.HasFourDigits)
    (other_four : other.HasFourDigits) (earlier : date.dayNumber < other.dayNumber) :
    date.text.toList ++ rest < other.text.toList ++ rest := by
  have few_years : other.year.toNat < 10 ^ 4 := by
    have := other_four.2
    omega
  have few_months : other.month < 10 ^ 2 := by
    have := other_exist.1.2
    omega
  have few_days : other.day < 10 ^ 2 := by
    have := other_exist.2.2.trans (daysInMonth_le _ _)
    omega
  simp only [toList_text_of_hasFourDigits four, toList_text_of_hasFourDigits other_four, List.append_assoc, List.cons_append]
  rcases lt_of_dayNumber_lt exist other_exist earlier with years | ⟨years, months | ⟨months, days⟩⟩
  · have fewer : date.year.toNat < other.year.toNat := by
      have := four.1
      omega
    exact showPadded_append_lt (by decide) fewer few_years
  · rw [years]
    apply List.append_left_lt
    rw [List.cons_lt_cons_self]
    exact showPadded_append_lt (by decide) months few_months
  · rw [years, months]
    apply List.append_left_lt
    rw [List.cons_lt_cons_self]
    apply List.append_left_lt
    rw [List.cons_lt_cons_self]
    exact showPadded_append_lt (by decide) days few_days

theorem hasFourDigits_iff (exist : date.Exists) : date.HasFourDigits ↔
    (Date.mk 0 1 1).dayNumber ≤ date.dayNumber ∧ date.dayNumber ≤ (Date.mk 9999 12 31).dayNumber := by
  have first : (Date.mk 0 1 1).Exists := ⟨by decide, by decide, by decide⟩
  have last : (Date.mk 9999 12 31).Exists := ⟨by decide, by decide, by decide⟩
  constructor
  · rintro ⟨some_year, few_years⟩
    constructor
    · by_contra before
      rcases lt_of_dayNumber_lt exist first (not_le.mp before) with years | ⟨-, months | ⟨-, days⟩⟩
      · exact absurd some_year (not_le.mpr years)
      · exact absurd exist.1.1 (not_le.mpr months)
      · exact absurd exist.2.1 (not_le.mpr days)
    · by_contra after
      rcases lt_of_dayNumber_lt last exist (not_le.mp after) with years | ⟨-, months | ⟨-, days⟩⟩
      · exact absurd few_years (not_le.mpr years)
      · exact absurd exist.1.2 (not_le.mpr months)
      · exact absurd (exist.2.2.trans (daysInMonth_le _ _)) (not_le.mpr days)
  · rintro ⟨begins, ends⟩
    exact ⟨year_le_of_dayNumber_le first exist begins, year_le_of_dayNumber_le exist last ends⟩

end Tablesmith.Calendar.Date
