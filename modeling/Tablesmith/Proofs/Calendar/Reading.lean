import Mathlib
import Tablesmith.Calendar.Date
import Tablesmith.Proofs.Number.Digits

/-!
# Reading dates and times

Dates, times and moments are read from exactly the texts that they are written as.
-/

namespace Tablesmith.Calendar

open Number Text

variable {written : String}

namespace Clock

variable {clock : Clock}

theorem isValid_iff : clock.isValid = true ↔ clock.hour < 24 ∧ clock.minute < 60 ∧ clock.second < 60 := by
  simp [isValid, and_assoc]

theorem toList_text (clock : Clock) : clock.text.toList =
    (showPadded 2 clock.hour).toList ++ ':' :: ((showPadded 2 clock.minute).toList ++ ':' :: (showPadded 2 clock.second).toList) := by
  simp [text]

theorem read?_text (valid : clock.isValid = true) : read? clock.text = some clock := by
  obtain ⟨hours, minutes, seconds⟩ := isValid_iff.mp valid
  obtain ⟨h₁, h₀, hour⟩ := showPadded_two (n := clock.hour) (by omega)
  obtain ⟨m₁, m₀, minute⟩ := showPadded_two (n := clock.minute) (by omega)
  obtain ⟨s₁, s₀, second⟩ := showPadded_two (n := clock.second) (by omega)
  have chars : clock.text.toList = [h₁, h₀, ':', m₁, m₀, ':', s₁, s₀] := by
    rw [toList_text, hour, minute, second]
    rfl
  have hour_read := readDigits?_showPadded 2 clock.hour
  have minute_read := readDigits?_showPadded 2 clock.minute
  have second_read := readDigits?_showPadded 2 clock.second
  rw [hour] at hour_read
  rw [minute] at minute_read
  rw [second] at second_read
  simp [read?, chars, hour_read, minute_read, second_read, valid]

theorem read?_eq_some_iff : read? written = some clock ↔ clock.isValid = true ∧ written = clock.text := by
  constructor
  · intro read
    unfold read? at read
    split at read
    · next h₁ h₀ m₁ m₀ s₁ s₀ chars =>
      simp only [Option.bind_eq_bind, Option.bind_eq_some_iff, Option.ite_none_right_eq_some, Option.some.injEq] at read
      obtain ⟨hour, hour_read, minute, minute_read, second, second_read, valid, rfl⟩ := read
      have two_digits {c d : Char} {n : Nat} (read : readDigits? [c, d] = some n) : [c, d] = (showPadded 2 n).toList :=
        ((readDigits?_field Nat.two_pos rfl).mp read).2
      refine ⟨valid, String.toList_inj.mp ?_⟩
      rw [toList_text, chars, ← two_digits hour_read, ← two_digits minute_read, ← two_digits second_read]
      rfl
    · cases read
  · rintro ⟨valid, rfl⟩
    exact read?_text valid

end Clock

namespace Date

variable {date : Date}

theorem isValid_iff : date.isValid = true ↔ (firstYear ≤ date.year ∧ date.year ≤ lastYear) ∧
    (1 ≤ date.month ∧ date.month ≤ 12) ∧ 1 ≤ date.day ∧ date.day ≤ daysInMonth date.year date.month := by
  simp [isValid, and_assoc]

theorem daysInMonth_le (year : Int) (month : Nat) : daysInMonth year month ≤ 31 := by
  unfold daysInMonth
  split
  · split <;> decide
  · split <;> decide

theorem toList_text (date : Date) : date.text.toList =
    (yearText date.year).toList ++ '-' :: ((showPadded 2 date.month).toList ++ '-' :: (showPadded 2 date.day).toList) := by
  simp [text]

/-- Digits are a year without sign. -/
theorem readYear?_digits (n : Nat) : readYear? (showPadded 4 n).toList = some (n : Int) := by
  have read := readDigits?_showPadded 4 n
  cases chars : (showPadded 4 n).toList with
  | nil =>
    rw [chars] at read
    cases read
  | cons c rest =>
    have first : c ∈ (showPadded 4 n).toList := chars ▸ List.mem_cons_self
    have digit : c.isDigit = true := isDigit_of_mem_showPadded first
    obtain ⟨no_plus, no_minus⟩ := not_sign_of_isDigit digit
    rw [chars] at read
    simp [readYear?, dropPlus, no_plus, no_minus, read]

theorem readYear?_yearText (year : Int) : readYear? (yearText year).toList = some year := by
  unfold yearText
  split
  · next four =>
    rw [readYear?_digits, Int.toNat_of_nonneg four.1]
  · next signed =>
    have read := readDigits?_showPadded 4 year.natAbs
    have natAbs_neg : year < 0 → -(year.natAbs : Int) = year := by omega
    have natAbs_pos : ¬ year < 0 → (year.natAbs : Int) = year := by omega
    split
    · next negative =>
      rw [String.toList_append, show "-".toList = ['-'] from rfl, List.singleton_append, readYear?, read]
      exact congrArg some (natAbs_neg negative)
    · next positive =>
      have unsigned : dropPlus ('+' :: (showPadded 4 year.natAbs).toList) = (showPadded 4 year.natAbs).toList := rfl
      rw [String.toList_append, show "+".toList = ['+'] from rfl, List.singleton_append, readYear?, unsigned, read]
      · exact congrArg some (natAbs_pos positive)
      · simp

theorem readParts?_text (month : date.month < 100) (day : date.day < 100) : readParts? date.text.toList = some date := by
  obtain ⟨m₁, m₀, month_chars⟩ := showPadded_two month
  obtain ⟨d₁, d₀, day_chars⟩ := showPadded_two day
  have month_read := readDigits?_showPadded 2 date.month
  have day_read := readDigits?_showPadded 2 date.day
  have year_read := readYear?_yearText date.year
  rw [month_chars] at month_read
  rw [day_chars] at day_read
  have backwards : date.text.toList.reverse = d₀ :: d₁ :: '-' :: m₀ :: m₁ :: '-' :: (yearText date.year).toList.reverse := by
    rw [toList_text, month_chars, day_chars]
    simp
  simp [readParts?, backwards, month_read, day_read, year_read]

theorem read?_eq_some_iff : read? written = some date ↔ date.isValid = true ∧ written = date.text := by
  unfold read?
  rw [Option.filter_eq_some_iff, Bool.and_eq_true, beq_iff_eq]
  constructor
  · rintro ⟨_, valid, rfl⟩
    exact ⟨valid, rfl⟩
  · rintro ⟨valid, rfl⟩
    obtain ⟨_, months, _, days⟩ := isValid_iff.mp valid
    have := daysInMonth_le date.year date.month
    exact ⟨readParts?_text (by omega) (by omega), valid, rfl⟩

theorem space_not_mem_text (date : Date) : ' ' ∉ date.text.toList := by
  have no_digit {width n : Nat} : ' ' ∉ (showPadded width n).toList := by
    intro member
    exact absurd (isDigit_of_mem_showPadded member) (by decide)
  have no_year : ' ' ∉ (yearText date.year).toList := by
    unfold yearText
    split
    · exact no_digit
    · split <;> simp [no_digit]
  simp [toList_text, no_year, no_digit]

end Date

namespace Moment

variable {moment : Moment}

/-- The date and the time exist. -/
def IsValid (moment : Moment) : Prop :=
  moment.date.isValid = true ∧ moment.clock.isValid = true

theorem toList_text (moment : Moment) : moment.text.toList = moment.date.text.toList ++ ' ' :: moment.clock.text.toList := by
  simp [text]

theorem read?_eq_some_iff : read? written = some moment ↔ moment.IsValid ∧ written = moment.text := by
  unfold read?
  constructor
  · intro read
    cases rest_chars : written.toList.dropWhile (· ≠ ' ') with
    | nil => simp only [rest_chars, reduceCtorEq] at read
    | cons c clock =>
      simp only [rest_chars, Option.bind_eq_bind, Option.bind_eq_some_iff, Option.pure_def, Option.some.injEq] at read
      obtain ⟨date, date_read, time, time_read, rfl⟩ := read
      obtain ⟨date_valid, date_text⟩ := Date.read?_eq_some_iff.mp date_read
      obtain ⟨time_valid, time_text⟩ := Clock.read?_eq_some_iff.mp time_read
      obtain rfl : c = ' ' := by
        have stops := List.head?_dropWhile_not (· ≠ ' ') written.toList
        simpa only [rest_chars, List.head?_cons, decide_eq_false_iff_not, not_not] using stops
      refine ⟨⟨date_valid, time_valid⟩, String.toList_inj.mp ?_⟩
      rw [toList_text, ← date_text, ← time_text, String.toList_ofList, String.toList_ofList, ← rest_chars,
        List.takeWhile_append_dropWhile]
  · rintro ⟨⟨date_valid, time_valid⟩, rfl⟩
    have before : ∀ c ∈ moment.date.text.toList, decide (c ≠ ' ') = true := by
      intro c member
      rw [decide_eq_true_eq]
      rintro rfl
      exact Date.space_not_mem_text moment.date member
    have date_chars : moment.text.toList.takeWhile (· ≠ ' ') = moment.date.text.toList := by
      rw [toList_text, List.takeWhile_append_of_pos before]
      simp
    have time_chars : moment.text.toList.dropWhile (· ≠ ' ') = ' ' :: moment.clock.text.toList := by
      rw [toList_text, List.dropWhile_append_of_pos before]
      simp
    have date_read := Date.read?_eq_some_iff.mpr ⟨date_valid, rfl⟩
    have time_read := Clock.read?_eq_some_iff.mpr ⟨time_valid, rfl⟩
    simp only [time_chars, date_chars, String.ofList_toList, date_read, time_read]
    rfl

end Moment

end Tablesmith.Calendar
