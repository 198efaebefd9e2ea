import Mathlib
import Tablesmith.Proofs.Calendar.DayCount
import Tablesmith.Proofs.Grid.NumberText
import Tablesmith.Proofs.Grid.Serial
import Tablesmith.Proofs.Number.Printing

/-!
# Whole serial days

A whole number that is not large is a double, so a numeral of it is read as exactly that
many days (`Serial.read?_of_denotes`), however it is spelled. From one such day to the next
the calendar goes on by one day, but for the day 60 of the system of 1900, which shows the
day 59 once more (`Cell.text_follows_calendar`).
-/

namespace Tablesmith.Number

variable {value : String} {numerator denominator mantissa : Nat} {exponent : Int}

namespace Binary64

/-- The absolute value of a double is a natural number. -/
def IsExactly (number mantissa : Nat) (exponent : Int) : Prop :=
  (ratio mantissa exponent).1 = number * (ratio mantissa exponent).2

theorem roundHalfEven_mul (number : Nat) (some_denominator : 0 < denominator) :
    roundHalfEven (number * denominator) denominator = number := by
  simp [roundHalfEven, some_denominator]

/-- A quotient that is a whole number is not rounded. -/
theorem exists_ofRatio_whole (negative : Bool) {number : Nat} (some_denominator : 0 < denominator) (few : number < 2 ^ 50) :
    ∃ mantissa exponent, ofRatio negative (number * denominator) denominator = finite negative mantissa exponent ∧
      IsExactly number mantissa exponent := by
  by_cases zero : number * denominator = 0
  · have none_left : number = 0 := by simpa [some_denominator.ne'] using zero
    refine ⟨0, leastExponent, by rw [ofRatio, if_pos zero], ?_⟩
    rw [none_left, IsExactly, Nat.zero_mul]
    rfl
  · obtain ⟨power, mantissa, exponent, rounded, value⟩ := exists_ofRatio_rounded negative zero le_rfl few
    refine ⟨mantissa, exponent, rounded, ?_⟩
    rw [Nat.mul_right_comm, roundHalfEven_mul _ some_denominator, Nat.mul_right_comm] at value
    exact Nat.eq_of_mul_eq_mul_right (Nat.two_pow_pos power) value

/-- A numeral of a whole number that is not large is read without rounding. -/
theorem exists_ofNumeral_whole {numeral : Numeral} {number : Nat} (few : number < 2 ^ 50)
    (value : |numeral.value| = number) : ∃ mantissa exponent,
      ofNumeral numeral = finite numeral.negative mantissa exponent ∧ IsExactly number mantissa exponent := by
  rw [Numeral.abs_value] at value
  unfold ofNumeral magnitudeLimit
  dsimp only
  by_cases zero : numeral.coefficient = 0
  · have none_left : number = 0 := by simpa [zero, eq_comm] using value
    refine ⟨0, leastExponent, by rw [if_pos (Or.inl zero)], ?_⟩
    rw [none_left, IsExactly, Nat.zero_mul]
    rfl
  · obtain ⟨least, most⟩ := digits_bounds zero numeral.exponent
    rw [value] at least most
    have some_number : (1 : ℚ) ≤ number := by
      have positive : (0 : ℚ) < number := value ▸ by positivity
      exact_mod_cast positive
    -- The digits of a whole number reach up to the point and not far beyond.
    have not_small : ¬ (digitCount numeral.coefficient + numeral.exponent : Int) < -400 := by
      intro small
      have unit : (10 : ℚ) ^ (digitCount numeral.coefficient + numeral.exponent : Int) ≤ 1 :=
        zpow_le_one_of_nonpos₀ (by norm_num) (by omega)
      linarith
    have not_large : ¬ 400 < (digitCount numeral.coefficient + numeral.exponent : Int) := by
      intro large
      have limit : (10 : ℚ) ^ (16 : Int) ≤ 10 ^ (digitCount numeral.coefficient + numeral.exponent - 1 : Int) :=
        zpow_le_zpow_right₀ (by norm_num) (by omega)
      have bound : (number : ℚ) < 10 ^ (16 : Int) := by
        calc (number : ℚ) < 2 ^ 50 := by exact_mod_cast few
          _ ≤ 10 ^ (16 : Int) := by norm_num
      linarith
    rw [if_neg (by omega), if_neg not_large]
    have some_denominator := tenfold_pos numeral.coefficient numeral.exponent
    have numerator : (tenfold numeral.coefficient numeral.exponent).1 =
        number * (tenfold numeral.coefficient numeral.exponent).2 := by
      have nonzero : ((tenfold numeral.coefficient numeral.exponent).2 : ℚ) ≠ 0 := by exact_mod_cast some_denominator.ne'
      rw [tenfold_eq, div_eq_iff nonzero] at value
      exact_mod_cast value
    rw [numerator]
    exact exists_ofRatio_whole numeral.negative some_denominator few

end Binary64

/-- What an integer is written as denotes it. -/
theorem denotes_showInt (number : Int) : Denotes (showInt number) number := by
  have spelled {n : Nat} (nonzero : n ≠ 0) (negative : Bool) :
      Denotes (signed negative (showNat n)) ((if negative then -1 else 1) * n) := by
    obtain ⟨spelling, -, written, value⟩ := showNat_isSpelledBy nonzero negative
    rw [← written, Spelling.denotes_text_iff, value]
    simp [Decimal.value]
  cases number with
  | ofNat n =>
    rcases Nat.eq_zero_or_pos n with rfl | positive
    · exact ⟨⟨false, 0, 0⟩, rfl, by simp [Numeral.value]⟩
    · simpa [signed, showInt] using spelled positive.ne' false
  | negSucc n =>
    have minus := spelled n.succ_ne_zero true
    rwa [if_pos rfl, neg_one_mul, ← Int.cast_natCast, ← Int.cast_neg] at minus

end Tablesmith.Number

namespace Tablesmith.Grid

open Calendar Number Text

namespace Serial

variable {value : String} {days later : Int} {system : DateSystem}

theorem secondsOf_zero (denominator : Nat) : secondsOf 0 denominator = 0 := by
  have nothing : (Binary64.ratio 0 Binary64.leastExponent).1 = 0 := rfl
  rw [secondsOf, Binary64.ofRatio, if_pos rfl]
  dsimp only
  rw [nothing, Nat.zero_mul, Binary64.ofRatio, if_pos rfl]
  decide +kernel

theorem ofBinary64?_of_isExactly (negative : Bool) {number mantissa : Nat} {exponent : Int}
    (exactly : Binary64.IsExactly number mantissa exponent) :
    ofBinary64? (.finite negative mantissa exponent) = some ⟨if negative then -number else number, 0⟩ := by
  have positive : (0 : Int) < (Binary64.ratio mantissa exponent).2 := Int.natCast_pos.mpr (ratio_pos mantissa exponent)
  have numerator : (if negative then -((Binary64.ratio mantissa exponent).1 : Int) else (Binary64.ratio mantissa exponent).1) =
      (if negative then -(number : Int) else number) * (Binary64.ratio mantissa exponent).2 := by
    rw [exactly]
    cases negative <;> simp
  simp only [ofBinary64?, numerator, Int.mul_ediv_cancel _ positive.ne', Int.mul_emod_left, Int.toNat_zero, secondsOf_zero]
  rfl

/-- A numeral of a whole number is read as that many days, with no part of a day left. -/
theorem read?_of_denotes (denotes : Denotes (trim value) days) (few : days.natAbs < 2 ^ 50) : read? value = some ⟨days, 0⟩ := by
  obtain ⟨numeral, read, denoted⟩ := denotes
  have size : |numeral.value| = days.natAbs := by
    rw [denoted]
    simp
  obtain ⟨mantissa, exponent, double, exactly⟩ := Binary64.exists_ofNumeral_whole few size
  have signed : (if numeral.negative then -(days.natAbs : Int) else days.natAbs) = days := by
    have positive : (0 : ℚ) ≤ numeral.coefficient * 10 ^ numeral.exponent := by positivity
    unfold Numeral.value at denoted
    cases sign : numeral.negative with
    | true =>
      have below : (days : ℚ) ≤ 0 := by
        rw [← denoted, sign, if_pos rfl]
        linarith
      have no_more : days ≤ 0 := by exact_mod_cast below
      simp only [↓reduceIte]
      omega
    | false =>
      have above : (0 : ℚ) ≤ days := by
        rw [← denoted, sign, if_neg Bool.false_ne_true, one_mul]
        exact positive
      have no_less : 0 ≤ days := by exact_mod_cast above
      simp only [Bool.false_eq_true, ↓reduceIte]
      omega
  rw [read?, read, Option.bind_some, double, ofBinary64?_of_isExactly numeral.negative exactly, signed]

/-- The serial day of the first day of the year 0. -/
def firstDay : DateSystem → Int
  | .from1900 => -693960
  | .from1904 => -695421

/-- The serial day of the last day of the year 9999. -/
def lastDay : DateSystem → Int
  | .from1900 => 2958465
  | .from1904 => 2957003

/-- The year of the day has four digits. -/
def HasFourDigits (system : DateSystem) (days : Int) : Prop :=
  firstDay system ≤ days ∧ days ≤ lastDay system

/-- Only the day 59 of the system of 1900 is followed by a day with the same number. -/
def Repeats (system : DateSystem) (days : Int) : Prop :=
  system = .from1900 ∧ days = 59

instance (system : DateSystem) (days : Int) : Decidable (Repeats system days) :=
  inferInstanceAs (Decidable (_ ∧ _))

theorem dayNumber_succ (system : DateSystem) (days : Int) :
    dayNumber system (days + 1) = dayNumber system days + if Repeats system days then 0 else 1 := by
  cases system with
  | from1900 =>
    simp only [dayNumber, Repeats, true_and]
    split_ifs <;> omega
  | from1904 =>
    simp only [dayNumber, Repeats, reduceCtorEq, false_and, ↓reduceIte]
    omega

theorem dayNumber_lt_iff (earlier : days < later) :
    dayNumber system days < dayNumber system later ↔ ¬ (Repeats system days ∧ later = 60) := by
  cases system with
  | from1900 =>
    simp only [dayNumber, Repeats, true_and]
    split_ifs <;> omega
  | from1904 =>
    simp only [dayNumber, Repeats, reduceCtorEq, false_and, not_false_eq_true, iff_true]
    omega

theorem dayNumber_of_repeats (repeated : Repeats system days) : dayNumber system 60 = dayNumber system days := by
  obtain ⟨rfl, rfl⟩ := repeated
  rfl

/-- The day 60 is where the systems have a fixed distance from. -/
theorem dayNumber_from1904 (from_march : 60 ≤ days + 1462) : dayNumber .from1904 days = dayNumber .from1900 (days + 1462) := by
  have late : ¬ days + 1462 < 60 := not_lt.mpr from_march
  simp only [dayNumber, if_neg late]

theorem hasFourDigits_iff : HasFourDigits system days ↔
    (Date.mk 0 1 1).dayNumber ≤ dayNumber system days ∧ dayNumber system days ≤ (Date.mk 9999 12 31).dayNumber := by
  have first : (Date.mk 0 1 1).dayNumber = -693959 := by decide
  have last : (Date.mk 9999 12 31).dayNumber = 2958465 := by decide +kernel
  rw [first, last]
  cases system with
  | from1900 =>
    simp only [HasFourDigits, firstDay, lastDay, dayNumber]
    split_ifs <;> omega
  | from1904 =>
    simp only [HasFourDigits, firstDay, lastDay, dayNumber]
    omega

theorem exists_date (four : HasFourDigits system days) :
    ∃ date : Date, date.Exists ∧ date.HasFourDigits ∧ date.dayNumber = dayNumber system days := by
  obtain ⟨exist, count⟩ := Date.dayNumber_ofDayNumber (dayNumber system days)
  refine ⟨_, exist, (Date.hasFourDigits_iff exist).mpr ?_, count⟩
  rw [count]
  exact hasFourDigits_iff.mp four

theorem HasFourDigits.natAbs_lt (four : HasFourDigits system days) : days.natAbs < 2 ^ 49 := by
  obtain ⟨first, last⟩ := four
  cases system <;> simp only [firstDay, lastDay] at first last <;> omega

end Serial

/-- What a format with a date shows at the beginning of a day. -/
def dayText (part : DatePart) (date : Date) : String :=
  match part with
  | .day => date.text
  | .moment | .time => date.text ++ " 00:00:00"

theorem exists_toList_dayText (part : DatePart) :
    ∃ rest, ∀ date : Date, (dayText part date).toList = date.text.toList ++ rest := by
  cases part with
  | day => exact ⟨[], fun date => (List.append_nil _).symm⟩
  | moment => exact ⟨" 00:00:00".toList, fun date => String.toList_append⟩
  | time => exact ⟨" 00:00:00".toList, fun date => String.toList_append⟩

namespace Cell

variable {cell other next : Cell} {part : DatePart} {system : DateSystem} {days later : Int} {date : Date}

/-- The cell holds a numeral of a whole number, with a format that makes it a day. -/
structure HoldsDay (cell : Cell) (part : DatePart) (system : DateSystem) (days : Int) : Prop where
  kind : cell.kind = .serial part system
  value : Number.Denotes (trim cell.value) days

theorem HoldsDay.text_eq (holds : cell.HoldsDay part system days) (dated : part ≠ .time) (few : days.natAbs < 2 ^ 50)
    (valid : date.isValid = true) (count : date.dayNumber = Serial.dayNumber system days) : cell.text = dayText part date := by
  have read := Serial.read?_of_denotes holds.value few
  have found : Serial.date? ⟨days, 0⟩ system = some date := date?_eq_some valid count
  cases part with
  | day => exact text_of_day holds.kind read found
  | moment =>
    have midnight : " " ++ (Clock.ofSeconds 0).text = " 00:00:00" := by decide
    rw [text_of_moment holds.kind read found, Moment.text, String.append_assoc]
    exact congrArg (date.text ++ ·) midnight
  | time => exact absurd rfl dated

theorem isValid_of_hasFourDigits (exist : date.Exists) (four : date.HasFourDigits) : date.isValid = true := by
  obtain ⟨some_year, few_years⟩ := four
  have bounds : Date.firstYear ≤ date.year ∧ date.year ≤ Date.lastYear := by
    unfold Date.firstYear Date.lastYear
    omega
  exact Date.isValid_iff.mpr ⟨bounds, exist⟩

/-- A cell with a whole number that stands for a day of the years 0 to 9999. -/
theorem HoldsDay.exists_text (holds : cell.HoldsDay part system days) (dated : part ≠ .time)
    (four : Serial.HasFourDigits system days) :
    ∃ date : Date, date.Exists ∧ date.HasFourDigits ∧ date.dayNumber = Serial.dayNumber system days ∧
      cell.text = dayText part date := by
  obtain ⟨date, exist, date_four, count⟩ := Serial.exists_date four
  exact ⟨date, exist, date_four, count,
    holds.text_eq dated (by have := four.natAbs_lt; omega) (isValid_of_hasFourDigits exist date_four) count⟩

theorem HoldsDay.text_next (holds : next.HoldsDay part system (days + 1)) (dated : part ≠ .time)
    (four : Serial.HasFourDigits system days)
    (exist : date.Exists) (date_four : date.HasFourDigits) (count : date.dayNumber = Serial.dayNumber system days) :
    next.text = dayText part (if Serial.Repeats system days then date else date.next) := by
  have few : (days + 1).natAbs < 2 ^ 50 := by
    have := four.natAbs_lt
    omega
  by_cases repeated : Serial.Repeats system days
  · rw [if_pos repeated]
    refine holds.text_eq dated few (isValid_of_hasFourDigits exist date_four) ?_
    rw [Serial.dayNumber_succ, if_pos repeated, count, Int.add_zero]
  · rw [if_neg repeated]
    have valid : date.next.isValid = true := by
      obtain ⟨some_year, few_years⟩ := date_four
      have bounds : Date.firstYear ≤ date.next.year ∧ date.next.year ≤ Date.lastYear := by
        unfold Date.firstYear Date.lastYear
        rcases Date.year_next date with same | more <;> omega
      exact Date.isValid_iff.mpr ⟨bounds, Date.exists_next exist⟩
    refine holds.text_eq dated few valid ?_
    rw [Serial.dayNumber_succ, if_neg repeated, Date.dayNumber_next exist, count]

theorem HoldsDay.text_lt (holds : cell.HoldsDay part system days) (other_holds : other.HoldsDay part system later)
    (dated : part ≠ .time) (four : Serial.HasFourDigits system days) (other_four : Serial.HasFourDigits system later)
    (earlier : Serial.dayNumber system days < Serial.dayNumber system later) : cell.text < other.text := by
  obtain ⟨date, exist, date_four, count, shown⟩ := holds.exists_text dated four
  obtain ⟨other_date, other_exist, other_date_four, other_count, other_shown⟩ := other_holds.exists_text dated other_four
  obtain ⟨rest, chars⟩ := exists_toList_dayText part
  rw [shown, other_shown, String.lt_iff, chars, chars]
  apply Date.text_append_lt exist other_exist date_four other_date_four
  rwa [count, other_count]

theorem HoldsDay.text_congr {other_system : DateSystem} (holds : cell.HoldsDay part system days)
    (other_holds : other.HoldsDay part other_system later) (dated : part ≠ .time) (four : Serial.HasFourDigits system days)
    (few : later.natAbs < 2 ^ 50) (same : Serial.dayNumber other_system later = Serial.dayNumber system days) :
    other.text = cell.text := by
  obtain ⟨date, exist, date_four, count, shown⟩ := holds.exists_text dated four
  rw [shown]
  exact other_holds.text_eq dated few (isValid_of_hasFourDigits exist date_four) (count.trans same.symm)

/-- Whole serial days go through the calendar one by one, apart from the day 60 of the system of 1900, and their texts
grow with them. From the first of March 1900 on the systems are 1462 days apart. -/
theorem text_follows_calendar (dated : part ≠ .time) :
    (∀ system days, Serial.HasFourDigits system days → ∀ cell : Cell, cell.HoldsDay part system days →
      ∃ date : Date, date.Exists ∧ date.HasFourDigits ∧ cell.text = dayText part date ∧
        (days = Serial.firstDay system → date = ⟨0, 1, 1⟩) ∧ (days = Serial.lastDay system → date = ⟨9999, 12, 31⟩) ∧
        ∀ next : Cell, next.HoldsDay part system (days + 1) →
          next.text = dayText part (if system = .from1900 ∧ days = 59 then date else date.next)) ∧
    (∀ system days later, Serial.HasFourDigits system days → Serial.HasFourDigits system later → days < later →
      ∀ cell other : Cell, cell.HoldsDay part system days → other.HoldsDay part system later →
        if system = .from1900 ∧ days = 59 ∧ later = 60 then other.text = cell.text else cell.text < other.text) ∧
    ∀ days, Serial.HasFourDigits .from1904 days → 60 ≤ days + 1462 →
      ∀ cell other : Cell, cell.HoldsDay part .from1904 days → other.HoldsDay part .from1900 (days + 1462) →
        other.text = cell.text := by
  refine ⟨fun system days four cell holds => ?_, fun system days later four other_four earlier cell other holds other_holds => ?_,
    fun days four from_march cell other holds other_holds => ?_⟩
  · obtain ⟨date, exist, date_four, count, shown⟩ := holds.exists_text dated four
    refine ⟨date, exist, date_four, shown, fun first => ?_, fun last => ?_,
      fun next next_holds => next_holds.text_next dated four exist date_four count⟩
    · have first_exist : (Date.mk 0 1 1).Exists := ⟨by decide, by decide, by decide⟩
      refine Date.dayNumber_inj exist first_exist (count.trans ?_)
      rw [first]
      cases system <;> decide +kernel
    · have last_exist : (Date.mk 9999 12 31).Exists := ⟨by decide, by decide, by decide⟩
      refine Date.dayNumber_inj exist last_exist (count.trans ?_)
      rw [last]
      cases system <;> decide +kernel
  · split_ifs with repeated
    · obtain ⟨from1900, day, rfl⟩ := repeated
      exact holds.text_congr other_holds dated four (by decide) (Serial.dayNumber_of_repeats ⟨from1900, day⟩)
    · refine holds.text_lt other_holds dated four other_four ((Serial.dayNumber_lt_iff earlier).mpr ?_)
      rintro ⟨⟨from1900, day⟩, march⟩
      exact repeated ⟨from1900, day, march⟩
  · have few : (days + 1462).natAbs < 2 ^ 50 := by
      have := four.natAbs_lt
      omega
    exact holds.text_congr other_holds dated four few (Serial.dayNumber_from1904 from_march).symm

/-- A cell with a number and a format that shows the date. -/
def dayCell (system : DateSystem) (value : String) : Cell :=
  ⟨0, 0, .serial .day system, value⟩

theorem holdsDay_dayCell (system : DateSystem) (days : Int) : (dayCell system (showInt days)).HoldsDay .day system days := by
  have denotes := denotes_showInt days
  exact ⟨rfl, denotes.trim_eq.symm ▸ denotes⟩

/-- The end of February 1900: the day 60 shows the day 59 again, and the other system has no such day. -/
theorem text_follows_calendar_february :
    (dayCell .from1900 (showInt 60)).text = (dayCell .from1900 (showInt 59)).text ∧
      (dayCell .from1900 (showInt 60)).text < (dayCell .from1900 " 6.1e1 ").text ∧
      (∃ date : Date, date.Exists ∧ (dayCell .from1900 (showInt 60)).text = dayText .day date ∧
        (dayCell .from1900 " 6.1e1 ").text = dayText .day date.next) ∧
      (dayCell .from1900 (showInt 60)).text = (dayCell .from1904 (showInt (-1402))).text := by
  have dated : DatePart.day ≠ .time := by decide
  obtain ⟨days, order, systems⟩ := text_follows_calendar dated
  have four (system : DateSystem) {number : Int} (late : -1402 ≤ number) (early : number ≤ 61) :
      Serial.HasFourDigits system number := by
    cases system <;> simp only [Serial.HasFourDigits, Serial.firstDay, Serial.lastDay] <;> omega
  have eve_four := four .from1900 (show -1402 ≤ 59 by decide) (by decide)
  have phantom_four := four .from1900 (show -1402 ≤ 60 by decide) (by decide)
  have march_four := four .from1900 (show -1402 ≤ 61 by decide) (by decide)
  have eve := holdsDay_dayCell .from1900 59
  have phantom := holdsDay_dayCell .from1900 60
  have march : (dayCell .from1900 " 6.1e1 ").HoldsDay .day .from1900 61 := ⟨rfl, ⟨false, 61, 0⟩, rfl, by simp [Numeral.value]⟩
  have repeated := order .from1900 59 60 eve_four phantom_four (by decide) _ _ eve phantom
  rw [if_pos (by decide)] at repeated
  have grown := order .from1900 60 61 phantom_four march_four (by decide) _ _ phantom march
  rw [if_neg (by decide)] at grown
  obtain ⟨date, exist, -, shown, -, -, next⟩ := days .from1900 60 phantom_four _ phantom
  have march_shown := next _ march
  rw [if_neg (by decide)] at march_shown
  have shared := systems (-1402) (four .from1904 le_rfl (by decide)) (by decide) _ _ (holdsDay_dayCell .from1904 (-1402)) phantom
  exact ⟨repeated, grown, ⟨date, exist, shown, march_shown⟩, shared⟩

end Cell

end Tablesmith.Grid
