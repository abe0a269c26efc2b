/-!
Contract: spans of time and their text.

Owns:
- `Duration`, counted in nanoseconds;
- its text: the largest of the units `s`, `ms`, `µs`, `ns` that it fills, with the fraction behind a
  point and no zeros at the end.
-/

namespace CompilerFront

structure Duration where
  nanoseconds : Nat
deriving DecidableEq, Repr

namespace Duration

def ofSeconds (seconds : Nat) : Duration := ⟨seconds * 1000000000⟩

def ofMilliseconds (milliseconds : Nat) : Duration := ⟨milliseconds * 1000000⟩

/-- The digits of a fraction of a unit with a given number of places, without zeros at the end. -/
def fraction (places part : Nat) : List Char :=
  let digits := Nat.toDigits 10 part
  let padded := List.replicate (places - digits.length) '0' ++ digits
  (padded.reverse.dropWhile (· == '0')).reverse

/-- A number of nanoseconds in a unit that is a power of ten of them. -/
def inUnit (places nanoseconds : Nat) (unit : List Char) : List Char :=
  let whole := Nat.toDigits 10 (nanoseconds / Nat.pow 10 places)
  match fraction places (nanoseconds % Nat.pow 10 places) with
  | [] => whole ++ unit
  | digits => whole ++ '.' :: (digits ++ unit)

def text (duration : Duration) : String :=
  let nanoseconds := duration.nanoseconds
  String.ofList <|
    if 1000000000 ≤ nanoseconds then inUnit 9 nanoseconds ['s']
    else if 1000000 ≤ nanoseconds then inUnit 6 nanoseconds ['m', 's']
    else if 1000 ≤ nanoseconds then inUnit 3 nanoseconds ['µ', 's']
    else inUnit 0 nanoseconds ['n', 's']

end Duration

end CompilerFront
