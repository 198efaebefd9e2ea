import Tablesmith.Number.Numeral

/-!
# Calendar dates

Dates of the Gregorian calendar, carried on before its introduction and counted as whole days from
1899-12-30. Years 0 to 9999 are written with four digits, all others with a sign. A moment is a date and a time of day,
which has always two digits for hours, minutes and seconds.
-/

namespace Tablesmith.Calendar

open Tablesmith.Number
open Tablesmith.Text

/-- A day of the calendar. -/
structure Date where
  year : Int
  month : Nat
  day : Nat
deriving DecidableEq

/-- The year has a 29th of February. -/
def isLeapYear (year : Int) : Bool :=
  year % 4 == 0 && (year % 100 != 0 || year % 400 == 0)

def daysInMonth (year : Int) (month : Nat) : Nat :=
  if month = 2 then if isLeapYear year then 29 else 28
  else if month = 4 ∨ month = 6 ∨ month = 9 ∨ month = 11 then 30
  else 31

namespace Date

/-- The earliest year that dates are kept for. -/
def firstYear : Int := -262143

/-- The last year that dates are kept for. -/
def lastYear : Int := 262142

/-- The date exists and its year is within bounds. -/
def isValid (date : Date) : Bool :=
  firstYear ≤ date.year && date.year ≤ lastYear &&
    1 ≤ date.month && date.month ≤ 12 &&
    1 ≤ date.day && date.day ≤ daysInMonth date.year date.month

/-- Days from the first of March of the year 0 to the day that counts as day 0. -/
def originShift : Int := 693899

/-- Days in 400 years, after which the calendar repeats. -/
def daysInEra : Int := 146097

/-- The date of a day counted from 1899-12-30. Years are taken to begin in March, so that the day
that some of them lack is their last. -/
def ofDayNumber (number : Int) : Date :=
  let shifted := number + originShift
  let era := shifted / daysInEra
  let dayOfEra := shifted % daysInEra
  let yearOfEra := (dayOfEra - dayOfEra / 1460 + dayOfEra / 36524 - dayOfEra / 146096) / 365
  let dayOfYear := dayOfEra - (365 * yearOfEra + yearOfEra / 4 - yearOfEra / 100)
  let monthFromMarch := (5 * dayOfYear + 2) / 153
  let day := dayOfYear - (153 * monthFromMarch + 2) / 5 + 1
  let month := if monthFromMarch < 10 then monthFromMarch + 3 else monthFromMarch - 9
  { year := yearOfEra + era * 400 + if month ≤ 2 then 1 else 0
    month := month.toNat
    day := day.toNat }

/-- The date of a day number whose year is within bounds. -/
def ofDayNumber? (number : Int) : Option Date :=
  let date := ofDayNumber number
  if firstYear ≤ date.year ∧ date.year ≤ lastYear then some date else none

/-- Four digits, or a sign and at least four digits. -/
def yearText (year : Int) : String :=
  if 0 ≤ year ∧ year ≤ 9999 then showPadded 4 year.toNat
  else (if year < 0 then "-" else "+") ++ showPadded 4 year.natAbs

/-- Year, month and day with hyphens between them. -/
def text (date : Date) : String :=
  yearText date.year ++ "-" ++ showPadded 2 date.month ++ "-" ++ showPadded 2 date.day

/-- The year that a signed or unsigned run of digits writes. -/
def readYear? (chars : List Char) : Option Int :=
  match chars with
  | '-' :: digits => (readDigits? digits).map fun n => -(n : Int)
  | chars => (readDigits? (dropPlus chars)).map fun n => (n : Int)

/-- Splits off the last five characters, which hold month and day. -/
def readParts? (chars : List Char) : Option Date :=
  match chars.reverse with
  | d₀ :: d₁ :: '-' :: m₀ :: m₁ :: '-' :: year => do
    let day ← readDigits? [d₁, d₀]
    let month ← readDigits? [m₁, m₀]
    let year ← readYear? year.reverse
    return ⟨year, month, day⟩
  | _ => none

/-- The date that a text writes exactly as `Date.text` does. -/
def read? (written : String) : Option Date :=
  (readParts? written.toList).filter fun date => date.isValid && date.text == written

end Date

/-- A time of day to the second. -/
structure Clock where
  hour : Nat
  minute : Nat
  second : Nat
deriving DecidableEq

namespace Clock

/-- The time exists; there are no leap seconds. -/
def isValid (clock : Clock) : Bool :=
  clock.hour < 24 && clock.minute < 60 && clock.second < 60

/-- The time so many seconds after midnight. -/
def ofSeconds (seconds : Nat) : Clock :=
  ⟨seconds / 3600, seconds / 60 % 60, seconds % 60⟩

/-- Hour, minute and second with colons between them. -/
def text (clock : Clock) : String :=
  showPadded 2 clock.hour ++ ":" ++ showPadded 2 clock.minute ++ ":" ++ showPadded 2 clock.second

/-- The time that a text writes exactly as `Clock.text` does. -/
def read? (written : String) : Option Clock :=
  match written.toList with
  | [h₁, h₀, ':', m₁, m₀, ':', s₁, s₀] => do
    let hour ← readDigits? [h₁, h₀]
    let minute ← readDigits? [m₁, m₀]
    let second ← readDigits? [s₁, s₀]
    let clock : Clock := ⟨hour, minute, second⟩
    if clock.isValid then some clock else none
  | _ => none

end Clock

/-- A date and a time of day. -/
structure Moment where
  date : Date
  clock : Clock
deriving DecidableEq

namespace Moment

/-- The date, a space and the time. -/
def text (moment : Moment) : String :=
  moment.date.text ++ " " ++ moment.clock.text

/-- The moment that a text writes exactly as `Moment.text` does. -/
def read? (written : String) : Option Moment :=
  let chars := written.toList
  let date := chars.takeWhile (· ≠ ' ')
  match chars.dropWhile (· ≠ ' ') with
  | _ :: clock => do
    let date ← Date.read? (String.ofList date)
    let clock ← Clock.read? (String.ofList clock)
    return ⟨date, clock⟩
  | [] => none

end Moment

end Tablesmith.Calendar
