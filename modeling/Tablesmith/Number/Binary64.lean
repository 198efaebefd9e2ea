import Tablesmith.Number.Numeral

/-!
# Double-precision numbers

A finite double is a sign, a mantissa and a power of two, all exact, so every operation is a step on
integers followed by one rounding to nearest with halves going to the even neighbour.

The text of a double has the fewest digits that no other double is nearer to, and of those the digits nearest to
the number. It is positional at every magnitude: there is no exponent, and no point without a digit after it.
-/

namespace Tablesmith.Number

/-- A double-precision number; a finite one is `mantissa * 2 ^ exponent` with its sign. -/
inductive Binary64
  | nan
  | infinite (negative : Bool)
  | finite (negative : Bool) (mantissa : Nat) (exponent : Int)
deriving DecidableEq

namespace Binary64

/-- The smallest power of two that a mantissa can be a multiple of. -/
def leastExponent : Int := -1074

/-- The largest power of two that a full mantissa can be a multiple of. -/
def greatestExponent : Int := 971

/-- Reads the sign bit, the 11 bits of the exponent and the 52 bits of the fraction. -/
def ofBits (bits : UInt64) : Binary64 :=
  let negative := bits >>> 63 == 1
  let exponent := ((bits >>> 52) &&& 0x7ff).toNat
  let fraction := (bits &&& 0xfffffffffffff).toNat
  if exponent = 2047 then
    if fraction = 0 then infinite negative else nan
  else if exponent = 0 then finite negative fraction leastExponent
  else finite negative (Nat.pow 2 52 + fraction) ((exponent : Int) - 1075)

/-- Numerator and denominator of `numerator / denominator / 2 ^ exponent`. -/
def scaleDown (numerator denominator : Nat) : Int → Nat × Nat
  | .ofNat power => (numerator, denominator * Nat.pow 2 power)
  | .negSucc power => (numerator * Nat.pow 2 (power + 1), denominator)

/-- The natural number nearest to a quotient; a half goes to the even neighbour. -/
def roundHalfEven (numerator denominator : Nat) : Nat :=
  let low := numerator / denominator
  let rest := numerator % denominator
  if 2 * rest < denominator then low
  else if denominator < 2 * rest then low + 1
  else low + low % 2

/-- The power of two of which the mantissa of a positive quotient counts the units: the one that
leaves 53 bits, unless that is too small a unit. -/
def unitExponent (numerator denominator : Nat) : Int :=
  let guess : Int := (numerator.log2 : Int) - denominator.log2 - 53
  let scaled := scaleDown numerator denominator guess
  max (if scaled.1 / scaled.2 < Nat.pow 2 53 then guess else guess + 1) leastExponent

/-- A rounded mantissa, which may have carried into one more bit, as a double. -/
def ofRounded (negative : Bool) (mantissa : Nat) (exponent : Int) : Binary64 :=
  let carried := mantissa = Nat.pow 2 53
  let mantissa := if carried then Nat.pow 2 52 else mantissa
  let exponent := if carried then exponent + 1 else exponent
  if greatestExponent < exponent then infinite negative else finite negative mantissa exponent

/-- The double nearest to a quotient. -/
def ofRatio (negative : Bool) (numerator denominator : Nat) : Binary64 :=
  if numerator = 0 then finite negative 0 leastExponent
  else
    let exponent := unitExponent numerator denominator
    let scaled := scaleDown numerator denominator exponent
    ofRounded negative (roundHalfEven scaled.1 scaled.2) exponent

/-- The double nearest to a decimal numeral. -/
def ofNumeral (numeral : Numeral) : Binary64 :=
  let magnitude := digitCount numeral.coefficient + numeral.exponent
  if numeral.coefficient = 0 ∨ magnitude < -magnitudeLimit then
    finite numeral.negative 0 leastExponent
  else if magnitudeLimit < magnitude then infinite numeral.negative
  else
    let ratio := tenfold numeral.coefficient numeral.exponent
    ofRatio numeral.negative ratio.1 ratio.2

/-- An integer of at most 53 bits, exactly. -/
def ofInt (value : Int) : Binary64 :=
  ofRatio (value < 0) value.natAbs 1

/-- Numerator and denominator of the absolute value of a finite double. -/
def ratio (mantissa : Nat) (exponent : Int) : Nat × Nat :=
  scaleDown mantissa 1 (-exponent)

def hundredth : Binary64 → Binary64
  | finite negative mantissa exponent =>
    let value := ratio mantissa exponent
    ofRatio negative value.1 (value.2 * 100)
  | other => other

end Binary64

/-- The decimal `coefficient * 10 ^ power`. -/
structure Decimal where
  coefficient : Nat
  power : Int

/-- The real numbers that round to a double lie between `low` and `high`, and these ends belong to
them if `closed`. All three numbers are counted in units of `1 / denominator`. -/
structure RoundingInterval where
  low : Nat
  value : Nat
  high : Nat
  denominator : Nat
  closed : Bool

/-- The interval of a positive double. Below a power of two the neighbour is only half as far off. -/
def RoundingInterval.of (mantissa : Nat) (exponent : Int) : RoundingInterval :=
  let quarter := Binary64.ratio 1 (exponent - 2)
  let isPower := mantissa = Nat.pow 2 52 ∧ Binary64.leastExponent < exponent
  { low := (4 * mantissa - if isPower then 1 else 2) * quarter.1
    value := 4 * mantissa * quarter.1
    high := (4 * mantissa + 2) * quarter.1
    denominator := quarter.2
    closed := mantissa % 2 = 0 }

def RoundingInterval.contains (interval : RoundingInterval) (decimal : Decimal) : Bool :=
  let point := tenfold decimal.coefficient decimal.power
  let place := point.1 * interval.denominator
  let low := interval.low * point.2
  let high := interval.high * point.2
  if interval.closed then low ≤ place && place ≤ high else low < place && place < high

/-- The power of ten of the first digit of a positive quotient. -/
def leadingPower (numerator denominator : Nat) : Int :=
  if denominator ≤ numerator then (digitCount (numerator / denominator) : Int) - 1
  else -(digitCount ((denominator - 1) / numerator) : Int)

/-- The decimal with the given last digit's power that lies in the interval and is nearest to the
number. Only the neighbours of the number on that grid can do; of two at one distance the upper is
taken. -/
def RoundingInterval.nearest? (interval : RoundingInterval) (power : Int) : Option Decimal :=
  let unit := tenfold 1 power
  let numerator := interval.value * unit.2
  let denominator := interval.denominator * unit.1
  let below := numerator / denominator
  let lower : Decimal := ⟨below, power⟩
  let upper : Decimal := ⟨below + 1, power⟩
  match interval.contains lower, interval.contains upper with
  | true, true => some (if 2 * numerator < (2 * below + 1) * denominator then lower else upper)
  | true, false => some lower
  | false, true => some upper
  | false, false => none

/-- The shortest decimal that reads back as a positive double. Seventeen digits always do. -/
def shortestDecimal (mantissa : Nat) (exponent : Int) : Decimal :=
  let interval := RoundingInterval.of mantissa exponent
  let leading := leadingPower interval.value interval.denominator
  ((List.range 17).findSome? fun (count : Nat) => interval.nearest? (leading - count)).getD
    ⟨mantissa, 0⟩

/-- A decimal without zeros at the end of its coefficient; `fuel` bounds their number. -/
def Decimal.dropZeros : Nat → Decimal → Decimal
  | 0, decimal => decimal
  | fuel + 1, decimal =>
    if decimal.coefficient % 10 = 0 ∧ decimal.coefficient ≠ 0 then
      Decimal.dropZeros fuel ⟨decimal.coefficient / 10, decimal.power + 1⟩
    else decimal

/-- Positional text of a decimal without superfluous zeros. -/
def Decimal.text (decimal : Decimal) : String :=
  let reduced := decimal.dropZeros (digitCount decimal.coefficient)
  let digits := Nat.toDigits 10 reduced.coefficient
  let point := digits.length + reduced.power
  if 0 ≤ reduced.power then String.ofList (digits ++ List.replicate reduced.power.toNat '0')
  else if point ≤ 0 then
    String.ofList ('0' :: '.' :: (List.replicate (-point).toNat '0' ++ digits))
  else String.ofList (digits.take point.toNat ++ '.' :: digits.drop point.toNat)

/-- A minus sign in front of the text of a negative number. -/
def signed (negative : Bool) (text : String) : String :=
  if negative then "-" ++ text else text

/-- The text of a double; zero keeps its sign and a number that is none has no sign. -/
def Binary64.text : Binary64 → String
  | nan => "NaN"
  | infinite negative => signed negative "inf"
  | finite negative 0 _ => signed negative "0"
  | finite negative mantissa exponent => signed negative (shortestDecimal mantissa exponent).text

end Tablesmith.Number
