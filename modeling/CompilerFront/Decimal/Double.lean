/-!
Contract: binary floating-point numbers of 64 bits, read from decimal text.

Owns:
- `Double`, a mantissa below 2^53 times a power of two, an infinity, or no number;
- `Double.ofDecimal`, the nearest of them to a decimal, of two equally near ones the even one.

All arithmetic is exact, on natural numbers.
-/

namespace CompilerFront.Decimal

/-- A binary floating-point number of 64 bits; a finite one is `mantissa * 2 ^ exponent`. -/
inductive Double where
  | finite (negative : Bool) (mantissa : Nat) (exponent : Int)
  | infinite (negative : Bool)
  | notANumber
deriving DecidableEq, Repr

/-- A quotient rounded to the nearest natural number, a half to the even neighbour. -/
def roundedQuotient (numerator denominator : Nat) : Nat :=
  let quotient := numerator / denominator
  let twice := 2 * (numerator % denominator)
  if twice < denominator then quotient
  else if denominator < twice then quotient + 1
  else quotient + quotient % 2

/-- The part of a power with an integer exponent that belongs above the fraction bar. -/
def above (base : Nat) (exponent : Int) : Nat := Nat.pow base exponent.toNat

/-- The part of a power with an integer exponent that belongs below the fraction bar. -/
def below (base : Nat) (exponent : Int) : Nat := Nat.pow base (-exponent).toNat

/-- The exponent of the greatest power of two that is no more than a positive fraction. -/
def floorLog2 (numerator denominator : Nat) : Int :=
  let estimate : Int := (numerator.log2 : Int) - (denominator.log2 : Int)
  if denominator * above 2 estimate ≤ numerator * below 2 estimate then estimate
  else estimate - 1

def leastExponent : Int := -1074

def greatestExponent : Int := 971

def Double.ofFraction (negative : Bool) (numerator denominator : Nat) : Double :=
  let exponent := max (floorLog2 numerator denominator - 52) leastExponent
  let mantissa :=
    roundedQuotient (numerator * below 2 exponent) (denominator * above 2 exponent)
  let (mantissa, exponent) :=
    if mantissa = Nat.pow 2 53 then (Nat.pow 2 52, exponent + 1) else (mantissa, exponent)
  if greatestExponent < exponent then .infinite negative
  else .finite negative mantissa exponent

/-- The number nearest to `digits * 10 ^ exponent`. -/
def Double.ofDecimal (negative : Bool) (digits : Nat) (exponent : Int) : Double :=
  let magnitude := exponent + ((Nat.toDigits 10 digits).length : Int)
  if digits = 0 ∨ magnitude < -330 then .finite negative 0 leastExponent
  else if 310 < magnitude then .infinite negative
  else .ofFraction negative (digits * above 10 exponent) (below 10 exponent)

end CompilerFront.Decimal
