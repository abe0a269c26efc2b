/-!
Contract: the blank characters of Unicode and trimming by them.

Owns:
- `isBlank`, membership in the property `White_Space`;
- `trim`, which removes blanks at both ends of a text and nowhere else.

Does not own: the narrower blanks of settings documents, which are space and tab alone.
-/

namespace CompilerFront.Text

/-- The characters with the Unicode property `White_Space`: 25 code points in ten ranges. -/
def isBlank (character : Char) : Bool :=
  let point := character.toNat
  (0x09 ≤ point && point ≤ 0x0D) || point == 0x20 || point == 0x85 || point == 0xA0 ||
    point == 0x1680 || (0x2000 ≤ point && point ≤ 0x200A) || point == 0x2028 ||
    point == 0x2029 || point == 0x202F || point == 0x205F || point == 0x3000

/-- A text without the blanks at its two ends. -/
def trim (text : String) : String :=
  String.ofList
    (((text.toList.dropWhile isBlank).reverse.dropWhile isBlank).reverse)

/-- Every character that the core library takes for white space is blank. -/
theorem isBlank_of_isWhitespace {character : Char} (white : character.isWhitespace = true) :
    isBlank character = true := by
  simp only [Char.isWhitespace, Bool.or_eq_true, decide_eq_true_eq] at white
  rcases white with ((rfl | rfl) | rfl) | rfl <;> decide

end CompilerFront.Text
