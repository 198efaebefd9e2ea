import Tablesmith.Text.Characters

/-!
# Integers and decimal numerals

An integer has an optional sign and at least one ASCII digit, and is within the range of the integers that are asked for.
A numeral has an optional sign, digits with an optional point among them, and an optional exponent.
It denotes `coefficient * 10 ^ exponent` exactly; whether a binary format can hold it is decided on
that value, without rounding.
-/

namespace Tablesmith.Number

open Tablesmith.Text

/-- The number that a list of decimal digits writes. -/
def digitsValue (digits : List Char) : Nat :=
  digits.foldl (fun value digit => 10 * value + digitValue digit) 0

/-- The number that a non-empty run of decimal digits writes. -/
def readDigits? (chars : List Char) : Option Nat :=
  if chars ≠ [] ∧ chars.all isAsciiDigit then some (digitsValue chars) else none

/-- A plus sign may stand in front of a number that has no minus. -/
def dropPlus : List Char → List Char
  | '+' :: rest => rest
  | chars => chars

def readNatural? (bound : Nat) (text : String) : Option Nat :=
  (readDigits? (dropPlus text.toList)).filter (· < bound)

/-- A signed number of the given count of bits in two's complement. -/
def readSigned? (bits : Nat) (text : String) : Option Int :=
  match text.toList with
  | '-' :: rest => ((readDigits? rest).filter (· ≤ Nat.pow 2 (bits - 1))).map fun n => -(n : Int)
  | chars => ((readDigits? (dropPlus chars)).filter (· < Nat.pow 2 (bits - 1))).map fun n => (n : Int)

/-- A position or count: an unsigned number of 64 bits. -/
def readIndex? (text : String) : Option Nat :=
  readNatural? (Nat.pow 2 64) text

/-- The value of a hexadecimal digit of either case. -/
def hexDigit? (c : Char) : Option Nat :=
  if isAsciiDigit c then some (digitValue c)
  else if 'a' ≤ c ∧ c ≤ 'f' then some (c.toNat - 'a'.toNat + 10)
  else if 'A' ≤ c ∧ c ≤ 'F' then some (c.toNat - 'A'.toNat + 10)
  else none

/-- The number that a non-empty run of hexadecimal digits writes. -/
def readHexDigits? (chars : List Char) : Option Nat :=
  if chars = [] then none
  else chars.foldlM (fun value c => (hexDigit? c).map (16 * value + ·)) 0

def readHex? (bound : Nat) (text : String) : Option Nat :=
  (readHexDigits? (dropPlus text.toList)).filter (· < bound)

/-- A natural number in decimal digits. -/
def showNat (n : Nat) : String :=
  String.ofList (Nat.toDigits 10 n)

/-- An integer in decimal digits, with a minus sign if it is negative. -/
def showInt : Int → String
  | .ofNat n => showNat n
  | .negSucc n => "-" ++ showNat (n + 1)

/-- A natural number in at least `width` decimal digits. -/
def showPadded (width n : Nat) : String :=
  let digits := Nat.toDigits 10 n
  String.ofList (List.replicate (width - digits.length) '0' ++ digits)

/-- The value of a decimal numeral. -/
structure Numeral where
  negative : Bool
  coefficient : Nat
  exponent : Int

/-- The sign in front of a numeral, and what follows it. -/
def takeSign : List Char → Bool × List Char
  | '-' :: rest => (true, rest)
  | '+' :: rest => (false, rest)
  | chars => (false, chars)

/-- The exponent at the end of a numeral: nothing, or a mark, a sign and digits. -/
def readExponent? : List Char → Option Int
  | [] => some 0
  | mark :: rest =>
    if mark = 'e' ∨ mark = 'E' then
      let signed := takeSign rest
      (readDigits? signed.2).map fun n => if signed.1 then -(n : Int) else (n : Int)
    else none

/-- The digits after the point, if a point follows, and what comes after them. -/
def takeFraction : List Char → List Char × List Char
  | '.' :: rest => (rest.takeWhile isAsciiDigit, rest.dropWhile isAsciiDigit)
  | chars => ([], chars)

/-- Reads a numeral that makes up the whole text. -/
def Numeral.read? (text : String) : Option Numeral :=
  let signed := takeSign text.toList
  let whole := signed.2.takeWhile isAsciiDigit
  let fraction := takeFraction (signed.2.dropWhile isAsciiDigit)
  if whole = [] ∧ fraction.1 = [] then none
  else (readExponent? fraction.2).map fun exponent =>
    ⟨signed.1, digitsValue (whole ++ fraction.1), exponent - fraction.1.length⟩

/-- How many decimal digits a number has; zero has one. -/
def digitCount (n : Nat) : Nat :=
  (Nat.toDigits 10 n).length

/-- Beyond this power of ten every number is larger, and below its inverse smaller, than anything a
double-precision number can tell apart from infinity or from zero. -/
def magnitudeLimit : Int := 400

/-- Numerator and denominator of `coefficient * 10 ^ exponent`. -/
def tenfold (coefficient : Nat) : Int → Nat × Nat
  | .ofNat power => (coefficient * Nat.pow 10 power, 1)
  | .negSucc power => (coefficient, Nat.pow 10 (power + 1))

/-- The absolute value of the numeral is below `bound`. -/
def Numeral.below (numeral : Numeral) (bound : Nat) : Bool :=
  let magnitude := digitCount numeral.coefficient + numeral.exponent
  if numeral.coefficient = 0 then 0 < bound
  else if magnitude < 0 then 0 < bound
  else if magnitudeLimit < magnitude then false
  else
    let ratio := tenfold numeral.coefficient numeral.exponent
    ratio.1 < bound * ratio.2

/-- Half a unit above the largest single-precision number: from here on rounding gives infinity. -/
def singleOverflow : Nat := Nat.pow 2 128 - Nat.pow 2 103

/-- Half a unit above the largest double-precision number: from here on rounding gives infinity. -/
def doubleOverflow : Nat := Nat.pow 2 1024 - Nat.pow 2 970

end Tablesmith.Number
