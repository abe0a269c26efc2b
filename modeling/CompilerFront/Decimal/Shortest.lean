import CompilerFront.Decimal.Double

/-!
Contract: the shortest decimal text that reads back as a given floating-point number.

Owns:
- `shortest`, the decimal with the fewest digits among those that are rounded to the number;
- `Double.text`, which writes a finite number in full, without an exponent and with a decimal point.
-/

namespace CompilerFront.Decimal

/-- The open or closed interval of fractions that are rounded to one number, all over one
denominator; its ends belong to it when the mantissa is even. -/
structure Interval where
  lower : Nat
  centre : Nat
  upper : Nat
  denominator : Nat
  closed : Bool
deriving Repr

/-- The interval of a positive number. Below a power of two its neighbour is half as far away. -/
def Interval.ofFinite (mantissa : Nat) (exponent : Int) : Interval :=
  let scale := above 2 (exponent - 2)
  let gap := if mantissa = Nat.pow 2 52 ∧ leastExponent < exponent then 1 else 2
  { lower := (4 * mantissa - gap) * scale
    centre := 4 * mantissa * scale
    upper := (4 * mantissa + 2) * scale
    denominator := below 2 (exponent - 2)
    closed := mantissa % 2 = 0 }

/-- A decimal `digits * 10 ^ exponent` lies in an interval. -/
def Interval.holds (interval : Interval) (digits : Nat) (exponent : Int) : Bool :=
  let point := digits * above 10 exponent * interval.denominator
  let scale := below 10 exponent
  if interval.closed then
    interval.lower * scale ≤ point && point ≤ interval.upper * scale
  else
    interval.lower * scale < point && point < interval.upper * scale

/-- Of the two decimals with an exponent that are next to the centre, the one in the interval; of
two in it the nearer one, and of two equally near ones the upper one. -/
def Interval.decimalAt (interval : Interval) (exponent : Int) : Option Nat :=
  let scaled := interval.centre * below 10 exponent
  let step := interval.denominator * above 10 exponent
  let lower := scaled / step
  match interval.holds lower exponent, interval.holds (lower + 1) exponent with
  | true, true => if 2 * (scaled % step) < step then some lower else some (lower + 1)
  | true, false => some lower
  | false, true => some (lower + 1)
  | false, false => none

/-- The first decimal found when the exponent falls step by step. -/
def Interval.search (interval : Interval) (exponent : Int) : Nat → Nat × Int
  | 0 => (0, exponent)
  | steps + 1 =>
    match interval.decimalAt exponent with
    | some digits => (digits, exponent)
    | none => interval.search (exponent - 1) steps

/-- The shortest decimal of a positive number: the coarsest grid that meets its interval is met
first. -/
def shortest (mantissa : Nat) (exponent : Int) : Nat × Int :=
  (Interval.ofFinite mantissa exponent).search 310 660

/-- The digits of `digits * 10 ^ exponent` written in full, with at least one behind the point. -/
def positionalText (digits : Nat) (exponent : Int) : List Char :=
  let row := Nat.toDigits 10 digits
  if 0 ≤ exponent then row ++ List.replicate exponent.toNat '0' ++ ['.', '0']
  else
    let places := (-exponent).toNat
    let padded := List.replicate (places + 1 - row.length) '0' ++ row
    let whole := padded.take (padded.length - places)
    let fraction := ((padded.drop (padded.length - places)).reverse.dropWhile (· == '0')).reverse
    whole ++ '.' :: (if fraction.isEmpty then ['0'] else fraction)

/-- The text of a number; what is not finite is named instead. -/
def Double.text : Double → String
  | .notANumber => "NaN"
  | .infinite negative => if negative then "-inf" else "inf"
  | .finite negative mantissa exponent =>
    let (digits, power) := if mantissa = 0 then (0, 0) else shortest mantissa exponent
    String.ofList ((if negative then ['-'] else []) ++ positionalText digits power)

end CompilerFront.Decimal
