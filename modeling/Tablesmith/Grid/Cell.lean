import Tablesmith.Calendar.Date
import Tablesmith.Grid.CellKind
import Tablesmith.Number.Binary64
import Tablesmith.Number.Numeral
import Tablesmith.Text.Characters

/-!
# Cells

A cell is a stored value at a position; its text is what the rest of the library works with. In a reference, columns are
lettered A to Z, AA to ZZ and so on, and rows are numbered from 1; inside the library both are counted from 0.

A number that stands for a moment counts days; its fraction is the time of day, rounded to the
second. The system of 1900 has a day 60 that the calendar lacks.
-/

namespace Tablesmith.Grid

open Tablesmith.Calendar
open Tablesmith.Number
open Tablesmith.Text

/-- Whole days and the seconds of the last, unfinished day. -/
structure Serial where
  days : Int
  seconds : Nat
deriving DecidableEq

namespace Serial

def secondsPerDay : Nat := 86400

/-- The natural number nearest to a double that is not negative; a half goes up. -/
def roundHalfUp : Binary64 → Nat
  | .finite _ mantissa exponent =>
    let value := Binary64.ratio mantissa exponent
    (2 * value.1 + value.2) / (2 * value.2)
  | _ => 0

/-- The fraction of a day in seconds, in double-precision arithmetic: the fraction is rounded, then
its product with the length of a day. -/
def secondsOf (numerator denominator : Nat) : Nat :=
  match Binary64.ofRatio false numerator denominator with
  | .finite _ mantissa exponent =>
    let fraction := Binary64.ratio mantissa exponent
    roundHalfUp (Binary64.ofRatio false (fraction.1 * secondsPerDay) fraction.2)
  | _ => 0

/-- Seconds that round up to a full day begin the next one. -/
def ofParts (days : Int) (seconds : Nat) : Serial :=
  if secondsPerDay ≤ seconds then ⟨days + 1, seconds - secondsPerDay⟩ else ⟨days, seconds⟩

/-- Splits a finite double into days and seconds. -/
def ofBinary64? : Binary64 → Option Serial
  | .finite negative mantissa exponent =>
    let value := Binary64.ratio mantissa exponent
    let numerator : Int := if negative then -(value.1 : Int) else value.1
    some (ofParts (numerator / value.2) (secondsOf (numerator % value.2).toNat value.2))
  | _ => none

/-- The serial that a stored value writes. -/
def read? (value : String) : Option Serial :=
  (Numeral.read? (trim value)).bind fun numeral => ofBinary64? (Binary64.ofNumeral numeral)

/-- The day number, counted from 1899-12-30, of a serial day. -/
def dayNumber (system : DateSystem) (days : Int) : Int :=
  match system with
  | .from1904 => days + 1462
  | .from1900 => if days < 60 then days + 1 else days

/-- The date of a serial, if the calendar reaches that far. -/
def date? (serial : Serial) (system : DateSystem) : Option Date :=
  Date.ofDayNumber? (dayNumber system serial.days)

/-- The time of day of a serial. -/
def clock (serial : Serial) : Clock :=
  Clock.ofSeconds serial.seconds

/-- The text of the part of a serial that a date format shows. -/
def text? (serial : Serial) (part : DatePart) (system : DateSystem) : Option String :=
  match part with
  | .time => some serial.clock.text
  | .day => (serial.date? system).map Date.text
  | .moment => (serial.date? system).map fun date => (Moment.mk date serial.clock).text

end Serial

/-- The letter of a column among 26. -/
def columnLetter (index : Nat) : Char :=
  Char.ofNat ('A'.toNat + index)

def columnLetters (column : Nat) : List Char :=
  if column < 26 then [columnLetter column]
  else columnLetters (column / 26 - 1) ++ [columnLetter (column % 26)]
termination_by column

/-- The reference of a cell, such as `B5`. -/
def reference (row column : Nat) : String :=
  String.ofList (columnLetters column) ++ showNat (row + 1)

/-- The place of a letter in the alphabet, from 1, whatever its case. -/
def letterValue (letter : Char) : Nat :=
  letter.toUpper.toNat - 'A'.toNat + 1

/-- The number that letters write without a zero digit: `A` is 1 and `AA` is 27. -/
def lettersValue (letters : List Char) : Nat :=
  letters.foldl (fun value letter => 26 * value + letterValue letter) 0

/-- Positions have 64 bits. -/
def positionBound : Nat := Nat.pow 2 64

/-- The row and column of a reference; dollar signs in it mean nothing. -/
def position? (text : String) : Option (Nat × Nat) :=
  let chars := text.toList.filter (· ≠ '$')
  let letters := chars.takeWhile (!isAsciiDigit ·)
  let column := lettersValue letters
  if letters = [] ∨ letters.all isAsciiLetter = false ∨ positionBound ≤ column then none
  else
    match readDigits? (chars.dropWhile (!isAsciiDigit ·)) with
    | some row => if row = 0 ∨ positionBound ≤ row then none else some (row - 1, column - 1)
    | none => none

/-- A cell of a sheet; rows and columns are counted from 0. -/
structure Cell where
  row : Nat
  column : Nat
  kind : CellKind
  value : String
deriving DecidableEq

namespace Cell

/-- Where the cell stands. -/
def position (cell : Cell) : Nat × Nat :=
  (cell.row, cell.column)

def reference (cell : Cell) : String :=
  Grid.reference cell.row cell.column

/-- The first `T` of a text becomes a space. -/
def spaceForT : List Char → List Char
  | [] => []
  | c :: rest => if c = 'T' then ' ' :: rest else c :: spaceForT rest

/-- The text of a cell. A date format on a value that is no date shows the value. -/
def text (cell : Cell) : String :=
  match cell.kind with
  | .empty | .error => ""
  | .boolean => if cell.value = "1" ∨ sameAscii cell.value "true" then "true" else "false"
  | .serial part system =>
    ((Serial.read? cell.value).bind (·.text? part system)).getD cell.value
  | .isoMoment => String.ofList (spaceForT cell.value.toList)
  | .number | .inlineText | .sharedText => cell.value

end Cell

end Tablesmith.Grid
