import CompilerFront.Expr.Literal
import CompilerFront.Settings.Node

/-!
Contract: the values of settings documents that are written as one word.

Owns:
- truth values, integers of 64 bits, floating-point numbers, dates and times;
- `readWord?`, which gives the value of a whole word or refuses it.

Digits may be parted by single underscores.
-/

namespace CompilerFront.Settings

def isWordChar (character : Char) : Bool :=
  character.isAlphanum || character == '_' || character == '+' || character == '-' ||
    character == '.' || character == ':'

/-- Digits of a radix with single underscores between them, without the underscores. -/
def digitRun? (radix : Nat) (text : List Char) : Option (List Char) :=
  let digits := text.filter (· != '_')
  if !text.isEmpty && Expr.underscoresSingle text && digits.all (Expr.isDigitOf radix) then
    some digits
  else
    none

/-- A decimal whole number without leading zeros. -/
def wholeNumber? (text : List Char) : Option (List Char) :=
  (digitRun? 10 text).bind fun digits =>
    if text.head? = some '0' ∧ 1 < text.length then none else some digits

/-- A sign at the head of a text, and what follows it. -/
def splitSign : List Char → Bool × List Char
  | '-' :: rest => (true, rest)
  | '+' :: rest => (false, rest)
  | rest => (false, rest)

def int64? (negative : Bool) (magnitude : Nat) : Option Int :=
  if negative then
    if magnitude ≤ Nat.pow 2 63 then some (-(magnitude : Int)) else none
  else
    if magnitude < Nat.pow 2 63 then some magnitude else none

/-- An integer, in decimal with an optional sign or behind the mark of another radix. -/
def integer? (word : List Char) : Option Int :=
  match word with
  | '0' :: 'x' :: body => (digitRun? 16 body).bind fun digits => unsigned 16 digits
  | '0' :: 'o' :: body => (digitRun? 8 body).bind fun digits => unsigned 8 digits
  | '0' :: 'b' :: body => (digitRun? 2 body).bind fun digits => unsigned 2 digits
  | signed =>
    match splitSign signed with
    | (negative, body) =>
      (wholeNumber? body).bind fun digits => int64? negative (Expr.positional 10 digits)
where
  /-- An integer without a sign. -/
  unsigned (radix : Nat) (digits : List Char) : Option Int :=
    int64? false (Expr.positional radix digits)

/-! ## Floating-point numbers -/

/-- The exponent behind its mark, which may have a sign and leading zeros. -/
def exponent? (text : List Char) : Option Int :=
  match splitSign text with
  | (negative, body) =>
    (digitRun? 10 body).map fun digits =>
      if negative then -(Expr.positional 10 digits : Int) else (Expr.positional 10 digits : Int)

/-- The number of a whole part, a fraction and an exponent; a positive one must be finite. -/
def composed? (negative : Bool) (whole fraction : List Char) (exponent : Int) :
    Option Decimal.Double :=
  match Decimal.Double.ofDecimal negative (Expr.positional 10 (whole ++ fraction))
      (exponent - fraction.length) with
  | .infinite false => none
  | number => some number

/-- A finite floating-point number: a fraction or an exponent or both follow the whole part. -/
def finiteFloat? (word : List Char) : Option Decimal.Double :=
  match splitSign word with
  | (negative, body) =>
    let isMark := fun character : Char => character == 'e' || character == 'E'
    let significand := body.takeWhile fun character => !isMark character
    let marked := body.dropWhile fun character => !isMark character
    let whole := significand.takeWhile (· != '.')
    let pointed := significand.dropWhile (· != '.')
    match wholeNumber? whole, pointed, marked with
    | some digits, [], _ :: power =>
      (exponent? power).bind fun exponent => composed? negative digits [] exponent
    | some digits, _ :: fraction, [] =>
      (digitRun? 10 fraction).bind fun places => composed? negative digits places 0
    | some digits, _ :: fraction, _ :: power =>
      (digitRun? 10 fraction).bind fun places =>
        (exponent? power).bind fun exponent => composed? negative digits places exponent
    | _, _, _ => none

/-- A floating-point number that is infinite or no number. -/
def specialFloat? (word : List Char) : Option Decimal.Double :=
  match splitSign word with
  | (negative, ['i', 'n', 'f']) => some (.infinite negative)
  | (_, ['n', 'a', 'n']) => some .notANumber
  | _ => none

/-! ## Dates and times -/

/-- The number that exactly two digits denote, when it is in a range. -/
def twoDigits? (lowest highest : Nat) (tens ones : Char) : Option Nat :=
  let value := Expr.positional 10 [tens, ones]
  if tens.isDigit && ones.isDigit && lowest ≤ value && value ≤ highest then some value else none

def daysOfMonth (year month : Nat) : Nat :=
  if month = 2 then
    if (year % 4 = 0 ∧ year % 100 ≠ 0) ∨ year % 400 = 0 then 29 else 28
  else if month = 4 ∨ month = 6 ∨ month = 9 ∨ month = 11 then 30
  else 31

def afterDate? : List Char → Option (List Char)
  | y1 :: y2 :: y3 :: y4 :: '-' :: m1 :: m2 :: '-' :: d1 :: d2 :: rest =>
    if [y1, y2, y3, y4].all Char.isDigit then
      (twoDigits? 1 12 m1 m2).bind fun month =>
        (twoDigits? 1 (daysOfMonth (Expr.positional 10 [y1, y2, y3, y4]) month) d1 d2).map
          fun _ => rest
    else none
  | _ => none

/-- The text behind a fraction of a second at the head of a text, if there is one. -/
def afterFraction? : List Char → Option (List Char)
  | '.' :: rest =>
    if (rest.takeWhile Char.isDigit).isEmpty then none else some (rest.dropWhile Char.isDigit)
  | rest => some rest

def afterTime? : List Char → Option (List Char)
  | h1 :: h2 :: ':' :: m1 :: m2 :: ':' :: s1 :: s2 :: rest =>
    (twoDigits? 0 23 h1 h2).bind fun _ =>
      (twoDigits? 0 59 m1 m2).bind fun _ =>
        (twoDigits? 0 60 s1 s2).bind fun _ => afterFraction? rest
  | _ => none

/-- A text is empty or an offset from universal time. -/
def isOffset : List Char → Bool
  | [] => true
  | ['Z'] | ['z'] => true
  | [sign, h1, h2, ':', m1, m2] =>
    (sign == '+' || sign == '-') && (twoDigits? 0 23 h1 h2).isSome &&
      (twoDigits? 0 59 m1 m2).isSome
  | _ => false

def isTimeWithOffset (text : List Char) : Bool :=
  match afterTime? text with
  | some rest => isOffset rest
  | none => false

def isDate (word : List Char) : Bool := afterDate? word == some []

/-- A word is a date, a time of day, or both joined by a letter. -/
def isDateTime (word : List Char) : Bool :=
  match afterDate? word with
  | some [] => true
  | some ('T' :: time) | some ('t' :: time) => isTimeWithOffset time
  | some _ => false
  | none => afterTime? word == some []

/-! ## Words -/

def readWord? (word : List Char) : Option Node :=
  if word = "true".toList then some (.boolean true)
  else if word = "false".toList then some (.boolean false)
  else if isDateTime word then some .dateTime
  else
    match integer? word with
    | some number => some (.integer number)
    | none => ((finiteFloat? word).or (specialFloat? word)).map .float

end CompilerFront.Settings
