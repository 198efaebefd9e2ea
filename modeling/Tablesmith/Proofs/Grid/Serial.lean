import Mathlib
import Tablesmith.Grid.Cell
import Tablesmith.Proofs.Calendar.Values

/-!
# Dates and times that cells show

A quotient that is at most a whole number is rounded to a double that is at most that
number, since the number is a double itself (`Binary64.exists_ofRatio`). So the seconds
of a serial date are always those of one day (`Serial.seconds_lt_of_read?`): what is
rounded up to a whole day begins the next one. What a cell with a date format shows is
then a value of the type that goes with the format (`Cell.text_accepted`).
-/

namespace Tablesmith.Number.Binary64

variable {numerator denominator bound : Nat}

/-- The absolute value of a double is at most a natural number. -/
def IsAtMost (bound mantissa : Nat) (exponent : Int) : Prop :=
  (ratio mantissa exponent).1 ≤ bound * (ratio mantissa exponent).2

theorem roundHalfEven_le (some_denominator : 0 < denominator) (small : numerator ≤ bound * denominator) :
    roundHalfEven numerator denominator ≤ bound := by
  have low_le : numerator / denominator ≤ bound := Nat.div_le_of_le_mul (by rwa [Nat.mul_comm])
  have whole := Nat.div_add_mod numerator denominator
  rcases Nat.lt_or_eq_of_le low_le with below | equal
  · unfold roundHalfEven
    dsimp only
    split_ifs <;> omega
  · -- Nothing is left to be rounded.
    have rest : numerator % denominator = 0 := by
      rw [equal, Nat.mul_comm] at whole
      omega
    unfold roundHalfEven
    simp [rest, some_denominator, equal]

theorem ratio_of_nonpos (mantissa : Nat) (power : Nat) : ratio mantissa (-(power : Int)) = (mantissa, 2 ^ power) := by
  rw [ratio, neg_neg]
  show (mantissa, 1 * 2 ^ power) = _
  rw [Nat.one_mul]

/-- The unit of a quotient that is not large is a fraction. -/
theorem unitExponent_lt (some_numerator : numerator ≠ 0) (small : numerator ≤ bound * denominator) (few : bound < 2 ^ 50) :
    unitExponent numerator denominator < 0 := by
  have some_denominator : denominator ≠ 0 := by
    rintro rfl
    omega
  have product : numerator < 2 ^ (denominator.log2 + 51) := by
    calc numerator ≤ bound * denominator := small
      _ < 2 ^ 50 * 2 ^ (denominator.log2 + 1) := Nat.mul_lt_mul'' few Nat.lt_log2_self
      _ = 2 ^ (denominator.log2 + 51) := by rw [← Nat.pow_add]; congr 1; omega
  have bits : numerator.log2 < denominator.log2 + 51 := (Nat.log2_lt some_numerator).mpr product
  unfold unitExponent leastExponent
  dsimp only
  split_ifs <;> omega

/-- A quotient that is not large is rounded to a multiple of a fraction with a power of two below the line. -/
theorem exists_ofRatio_rounded (negative : Bool) (some_numerator : numerator ≠ 0) (small : numerator ≤ bound * denominator)
    (few : bound < 2 ^ 50) : ∃ power mantissa exponent, ofRatio negative numerator denominator = finite negative mantissa exponent ∧
      (ratio mantissa exponent).1 * 2 ^ power = roundHalfEven (numerator * 2 ^ power) denominator * (ratio mantissa exponent).2 := by
  obtain ⟨power, unit⟩ : ∃ power : Nat, unitExponent numerator denominator = -((power + 1 : Nat) : Int) :=
    ⟨(-unitExponent numerator denominator - 1).toNat, by have := unitExponent_lt some_numerator small few; omega⟩
  have rounded : ofRatio negative numerator denominator =
      ofRounded negative (roundHalfEven (numerator * 2 ^ (power + 1)) denominator) (-((power + 1 : Nat) : Int)) := by
    rw [ofRatio, if_neg some_numerator, unit]
    rfl
  refine ⟨power + 1, ?_⟩
  rw [rounded]
  generalize roundHalfEven (numerator * 2 ^ (power + 1)) denominator = mantissa
  unfold ofRounded greatestExponent
  by_cases carried : mantissa = Nat.pow 2 53
  · refine ⟨Nat.pow 2 52, -(power : Int), ?_, ?_⟩
    · dsimp only
      rw [if_pos carried, if_pos carried, if_neg (by omega)]
      congr 1
      omega
    · rw [ratio_of_nonpos, carried, Nat.pow_succ, Nat.mul_left_comm, Nat.mul_comm]
      exact congrArg (· * 2 ^ power) (Nat.pow_succ 2 52).symm
  · refine ⟨mantissa, -((power + 1 : Nat) : Int), ?_, ?_⟩
    · dsimp only
      rw [if_neg carried, if_neg carried, if_neg (by omega)]
    · rw [ratio_of_nonpos]

/-- A quotient is not rounded beyond a whole number. -/
theorem exists_ofRatio (negative : Bool) (small : numerator ≤ bound * denominator) (few : bound < 2 ^ 50) :
    ∃ mantissa exponent, ofRatio negative numerator denominator = finite negative mantissa exponent ∧
      IsAtMost bound mantissa exponent := by
  by_cases zero : numerator = 0
  · refine ⟨0, leastExponent, by rw [ofRatio, if_pos zero], ?_⟩
    exact Nat.zero_le _
  · have some_denominator : 0 < denominator := by
      rcases Nat.eq_zero_or_pos denominator with rfl | positive
      · omega
      · exact positive
    obtain ⟨power, mantissa, exponent, rounded, value⟩ := exists_ofRatio_rounded negative zero small few
    have scaled_le : numerator * 2 ^ power ≤ bound * 2 ^ power * denominator := by
      rw [Nat.mul_right_comm]
      exact Nat.mul_le_mul_right _ small
    refine ⟨mantissa, exponent, rounded, ?_⟩
    have scaled : (ratio mantissa exponent).1 * 2 ^ power ≤ bound * (ratio mantissa exponent).2 * 2 ^ power := by
      rw [value, Nat.mul_right_comm bound]
      exact Nat.mul_le_mul_right _ (roundHalfEven_le some_denominator scaled_le)
    exact Nat.le_of_mul_le_mul_right scaled (Nat.two_pow_pos power)

end Tablesmith.Number.Binary64

namespace Tablesmith.Grid

open Calendar Number Text

namespace Serial

variable {value : String} {serial : Serial} {numerator denominator bound mantissa : Nat} {exponent : Int}

theorem ratio_pos (mantissa : Nat) (exponent : Int) : 0 < (Binary64.ratio mantissa exponent).2 := by
  unfold Binary64.ratio Binary64.scaleDown
  split
  · exact Nat.mul_pos Nat.one_pos (Nat.two_pow_pos _)
  · exact Nat.one_pos

theorem roundHalfUp_le (negative : Bool) (small : Binary64.IsAtMost bound mantissa exponent) :
    roundHalfUp (.finite negative mantissa exponent) ≤ bound := by
  have positive := ratio_pos mantissa exponent
  unfold Binary64.IsAtMost at small
  show (2 * (Binary64.ratio mantissa exponent).1 + (Binary64.ratio mantissa exponent).2) /
    (2 * (Binary64.ratio mantissa exponent).2) ≤ bound
  generalize Binary64.ratio mantissa exponent = ratio at *
  have product : (bound + 1) * (2 * ratio.2) = 2 * (bound * ratio.2) + 2 * ratio.2 := by ring
  have below : 2 * ratio.1 + ratio.2 < (bound + 1) * (2 * ratio.2) := by omega
  exact Nat.le_of_lt_succ (Nat.div_lt_of_lt_mul (below.trans_eq (Nat.mul_comm _ _)))

/-- The part of a day is at most a day, rounded or not. -/
theorem secondsOf_le (part : numerator ≤ denominator) : secondsOf numerator denominator ≤ secondsPerDay := by
  have at_most_one : numerator ≤ 1 * denominator := by rwa [Nat.one_mul]
  obtain ⟨mantissa, exponent, fraction, small⟩ := Binary64.exists_ofRatio false at_most_one (by decide)
  have product : (Binary64.ratio mantissa exponent).1 * secondsPerDay ≤ secondsPerDay * (Binary64.ratio mantissa exponent).2 := by
    rw [Nat.mul_comm]
    exact Nat.mul_le_mul_left _ (by rwa [Binary64.IsAtMost, Nat.one_mul] at small)
  obtain ⟨mantissa', exponent', seconds, seconds_small⟩ := Binary64.exists_ofRatio false product (by decide)
  unfold secondsOf
  rw [fraction]
  show roundHalfUp (Binary64.ofRatio false _ _) ≤ _
  rw [seconds]
  exact roundHalfUp_le false seconds_small

theorem seconds_ofParts_lt {seconds : Nat} (days : Int) (within : seconds ≤ secondsPerDay) :
    (ofParts days seconds).seconds < secondsPerDay := by
  unfold ofParts
  split
  · show seconds - secondsPerDay < secondsPerDay
    unfold secondsPerDay at *
    omega
  · next below => exact Nat.lt_of_not_le below

theorem seconds_lt_of_read? (read : read? value = some serial) : serial.seconds < secondsPerDay := by
  obtain ⟨numeral, -, found⟩ := Option.bind_eq_some_iff.mp read
  unfold ofBinary64? at found
  split at found
  · next negative mantissa exponent _ =>
    cases found
    refine seconds_ofParts_lt _ (secondsOf_le ?_)
    have positive := ratio_pos mantissa exponent
    have rest := Int.emod_lt_of_pos (if negative then -((Binary64.ratio mantissa exponent).1 : Int) else (Binary64.ratio mantissa exponent).1)
      (Int.natCast_pos.mpr positive)
    omega
  · cases found

end Serial

namespace Cell

variable {cell : Cell} {serial : Serial} {part : DatePart} {system : DateSystem} {date : Date}

theorem text_of_serial (kind : cell.kind = .serial part system) (read : Serial.read? cell.value = some serial) :
    cell.text = (serial.text? part system).getD cell.value := by
  rw [text, kind, read]
  rfl

theorem date?_eq_some (valid : date.isValid = true) (count : date.dayNumber = Serial.dayNumber system serial.days) :
    serial.date? system = some date :=
  Date.ofDayNumber?_eq_some_iff.mpr ⟨valid, count⟩

theorem accepts_text_of_boolean (kind : cell.kind = .boolean) : PropertyType.bool.accepts cell.text = true := by
  rw [text, kind]
  dsimp only
  split <;> decide

theorem isValid_clock (read : Serial.read? cell.value = some serial) : serial.clock.isValid = true :=
  Clock.isValid_ofSeconds (Serial.seconds_lt_of_read? read)

theorem text_of_time (kind : cell.kind = .serial .time system) (read : Serial.read? cell.value = some serial) :
    cell.text = serial.clock.text := by
  rw [text_of_serial kind read]
  rfl

theorem text_of_day (kind : cell.kind = .serial .day system) (read : Serial.read? cell.value = some serial)
    (found : serial.date? system = some date) : cell.text = date.text := by
  rw [text_of_serial kind read, Serial.text?, found]
  rfl

theorem text_of_moment (kind : cell.kind = .serial .moment system) (read : Serial.read? cell.value = some serial)
    (found : serial.date? system = some date) : cell.text = (Moment.mk date serial.clock).text := by
  rw [text_of_serial kind read, Serial.text?, found]
  rfl

/-- What a cell shows of a truth value, a date and time, or a time is a value of that type. It is the date that the cell
shows with a format without time, and the hour, minute and second that make up the seconds. -/
theorem text_accepted (cell : Cell) :
    (cell.kind = .boolean → PropertyType.bool.accepts cell.text = true) ∧
    ∀ serial, Serial.read? cell.value = some serial → ∃ hour minute second, hour < 24 ∧ minute < 60 ∧ second < 60 ∧
      serial.seconds = 3600 * hour + 60 * minute + second ∧ ∀ system,
        let shown := showPadded 2 hour ++ ":" ++ showPadded 2 minute ++ ":" ++ showPadded 2 second
        (cell.kind = .serial .time system → PropertyType.timeSpan.accepts cell.text = true ∧ cell.text = shown) ∧
        ∀ date : Date, date.isValid = true → date.dayNumber = Serial.dayNumber system serial.days →
          cell.kind = .serial .moment system → PropertyType.dateTime.accepts cell.text = true ∧
            ({ cell with kind := .serial .day system } : Cell).text = date.text ∧
            cell.text = ({ cell with kind := .serial .day system } : Cell).text ++ " " ++ shown := by
  refine ⟨accepts_text_of_boolean, fun serial read => ?_⟩
  have valid := isValid_clock read
  obtain ⟨hours, minutes, seconds⟩ := Clock.isValid_iff.mp valid
  have count : serial.clock.seconds = serial.seconds := Clock.seconds_ofSeconds serial.seconds
  refine ⟨serial.clock.hour, serial.clock.minute, serial.clock.second, hours, minutes, seconds, count.symm, fun system =>
    ⟨fun kind => ?_, fun date date_valid date_count kind => ?_⟩⟩
  · have shown := text_of_time kind read
    exact ⟨PropertyType.accepts_timeSpan_iff.mpr ⟨serial.clock, valid, shown⟩, shown⟩
  · have found := date?_eq_some date_valid date_count
    have shown := text_of_moment kind read found
    have day_shown : ({ cell with kind := .serial .day system } : Cell).text = date.text := text_of_day rfl read found
    refine ⟨PropertyType.accepts_dateTime_iff.mpr ⟨⟨date, serial.clock⟩, ⟨date_valid, valid⟩, shown⟩, day_shown, ?_⟩
    rw [day_shown, shown]
    rfl

/-- The last second of the year 9999, rounded up. -/
theorem text_accepted_next_year :
    let cell : Cell := ⟨0, 0, .serial .moment .from1900, "2958465.999999"⟩
    Serial.read? cell.value = some ⟨2958466, 0⟩ ∧ (Date.mk 10000 1 1).isValid = true ∧
      (Date.mk 10000 1 1).dayNumber = Serial.dayNumber .from1900 2958466 ∧
      PropertyType.dateTime.accepts cell.text = true ∧ cell.text = "+10000-01-01 00:00:00" := by
  intro cell
  have read : Serial.read? cell.value = some ⟨2958466, 0⟩ := by decide +kernel
  have valid : (Date.mk 10000 1 1).isValid = true := by decide
  have count : (Date.mk 10000 1 1).dayNumber = Serial.dayNumber .from1900 2958466 := by decide
  obtain ⟨hour, minute, second, -, -, -, -, shown⟩ := (text_accepted cell).2 _ read
  obtain ⟨accepted, -, -⟩ := (shown .from1900).2 _ valid count rfl
  exact ⟨read, valid, count, accepted, by decide +kernel⟩

end Cell

end Tablesmith.Grid
