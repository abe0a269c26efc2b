/-!
Contract: the control characters of Unicode.

Owns:
- `isControl`, membership in the general category `Cc`, and its ASCII part.
-/

namespace CompilerFront.Text

/-- The characters of general category `Cc`: U+0000 to U+001F and U+007F to U+009F. -/
def isControl (character : Char) : Bool :=
  character.toNat < 0x20 || (0x7F ≤ character.toNat && character.toNat < 0xA0)

/-- The ASCII control characters: U+0000 to U+001F and U+007F. -/
def isAsciiControl (character : Char) : Bool :=
  character.toNat < 0x20 || character.toNat == 0x7F

/-- The lower-case hexadecimal digits of a number, without leading zeros. -/
def hexDigits (number : Nat) : List Char :=
  Nat.toDigits 16 number

/-- The lower-case hexadecimal digits of a number, filled with zeros on the left up to a width. -/
def hexDigitsPadded (width number : Nat) : List Char :=
  let digits := hexDigits number
  List.replicate (width - digits.length) '0' ++ digits

/-- The ASCII control characters are control characters. -/
theorem isControl_of_isAsciiControl {character : Char}
    (control : isAsciiControl character = true) : isControl character = true := by
  simp only [isAsciiControl, isControl, Bool.or_eq_true, Bool.and_eq_true, decide_eq_true_eq,
    beq_iff_eq] at control ⊢
  omega

end CompilerFront.Text
