import CompilerFront.Proofs.Printing.Digits

/-!
Contract: the escapes that are printed are the escapes that are read.

Owns:
- `escape_cases`, by which a character of a string is printed as an escape that reads back as the
  character, or as itself when it needs none;
- `readString_quote`, by which a printed string is read back whole, and no further;
- `not_isControl_of_mem_escape`, by which printed strings hold no control characters.
-/

namespace CompilerFront.Expr

/-! ## Code points -/

theorem charOfPoint?_toNat (character : Char) : charOfPoint? character.toNat = some character := by
  have again := Char.ofNat_toNat character
  unfold Char.ofNat at again
  unfold charOfPoint?
  split at again
  · rename_i valid
    rw [dif_pos valid, again]
  · rename_i invalid
    exact absurd character.valid invalid

/-- Digits with the value of a character denote the character. -/
theorem codePoint_of_positional {digits : List Char} {character : Char}
    (same : positional 16 digits = character.toNat) : codePoint digits = .ok character := by
  rw [codePoint, same, charOfPoint?_toNat]

/-! ## Hexadecimal digits -/

section Hexadecimal

theorem length_hexDigitsPadded {width number : Nat} (positive : 0 < width)
    (fits : number < 16 ^ width) : (Text.hexDigitsPadded width number).length = width := by
  have short : (Text.hexDigits number).length ≤ width :=
    (Nat.length_toDigits_le_iff (by decide) positive).mpr fits
  rw [Text.hexDigitsPadded, List.length_append, List.length_replicate]
  exact Nat.sub_add_cancel short

theorem isDigitOf_of_mem_hexDigits (number : Nat) :
    ∀ character ∈ Text.hexDigits number, isDigitOf 16 character = true :=
  isDigitOf_of_mem_toDigits (by decide) (Nat.le_refl 16) number

theorem isDigitOf_of_mem_hexDigitsPadded (width number : Nat) :
    ∀ character ∈ Text.hexDigitsPadded width number, isDigitOf 16 character = true := by
  intro character member
  rcases List.mem_append.mp member with padding | digit
  · rw [List.eq_of_mem_replicate padding]
    decide
  · exact isDigitOf_of_mem_hexDigits number character digit

theorem positional_hexDigitsPadded (width number : Nat) :
    positional 16 (Text.hexDigitsPadded width number) = number := by
  have filled : ∀ zeros digits, positional 16 (List.replicate zeros '0' ++ digits) =
      positional 16 digits := by
    intro zeros digits
    induction zeros with
    | zero => rw [List.replicate_zero, List.nil_append]
    | succ zeros inductionHypothesis =>
      rw [List.replicate_succ, List.cons_append, positional_zero_cons, inductionHypothesis]
  rw [Text.hexDigitsPadded, filled]
  exact positional_toDigits (by decide) (Nat.le_refl 16) number

/-- Exactly as many digits as announced are read, whatever follows them. -/
theorem readHexEscape_padded {count : Nat} {character : Char} (positive : 0 < count)
    (fits : character.toNat < 16 ^ count) (rest : List Char) :
    readHexEscape count (Text.hexDigitsPadded count character.toNat ++ rest) =
      .ok ⟨character, count, rest⟩ := by
  have filled := length_hexDigitsPadded positive fits
  have digits := List.all_eq_true.mpr (isDigitOf_of_mem_hexDigitsPadded count character.toNat)
  have found := codePoint_of_positional (positional_hexDigitsPadded count character.toNat)
  rw [readHexEscape, List.take_left' filled, List.drop_left' filled, filled, digits, found,
    beq_self_eq_true]
  rfl

/-- A code point has six digits at most, as many as the braces may hold. -/
theorem readBracedEscape_hexDigits (character : Char) (rest : List Char) :
    readBracedEscape (Text.hexDigits character.toNat ++ '\x7d' :: rest) =
      .ok ⟨character, (Text.hexDigits character.toNat).length + 1, rest⟩ := by
  have digits := isDigitOf_of_mem_hexDigits character.toNat
  have taken : (Text.hexDigits character.toNat ++ '\x7d' :: rest).takeWhile (isDigitOf 16) =
      Text.hexDigits character.toNat := by
    rw [List.takeWhile_append_of_pos digits]
    exact List.append_nil _
  have left : (Text.hexDigits character.toNat ++ '\x7d' :: rest).dropWhile (isDigitOf 16) =
      '\x7d' :: rest := by
    rw [List.dropWhile_append_of_pos digits]
    rfl
  have found : codePoint (Text.hexDigits character.toNat) = .ok character :=
    codePoint_of_positional (positional_toDigits (by decide) (Nat.le_refl 16) character.toNat)
  have nonempty : (Text.hexDigits character.toNat).isEmpty = false := by
    rw [List.isEmpty_eq_false_iff]
    exact Nat.toDigits_ne_nil
  have short : ¬(Text.hexDigits character.toNat).length > 6 := by
    have bound : character.toNat < 16 ^ 6 := by
      have valid : character.toNat < 0xD800 ∨
          0xDFFF < character.toNat ∧ character.toNat < 0x110000 := character.valid
      omega
    exact Nat.not_lt.mpr ((Nat.length_toDigits_le_iff (by decide) (by decide)).mpr bound)
  rw [readBracedEscape, taken, left]
  simp only [nonempty, short, decide_false, Bool.or_self, Bool.false_eq_true, ↓reduceIte, found]
  rfl

end Hexadecimal

/-! ## Characters of strings -/

/-- `ReadsBack tail character`: behind a backslash, the tail is read as the character. -/
def ReadsBack (tail : List Char) (character : Char) : Prop :=
  ∀ rest, readEscape (tail ++ rest) = .ok ⟨character, tail.length, rest⟩

/-- A character is printed as an escape that reads back, or as itself. -/
theorem escape_cases (character : Char) :
    (∃ tail, Value.escape character = '\\' :: tail ∧ ReadsBack tail character) ∨
      (Value.escape character = [character] ∧ character ≠ '"' ∧ character ≠ '\\' ∧
        Text.isControl character = false) := by
  unfold Value.escape
  split
  case h_9 noQuote noBackslash _ _ _ _ _ _ =>
    split
    · rename_i ascii
      left
      refine ⟨_, rfl, fun rest => ?_⟩
      have fits : character.toNat < 16 ^ 2 := by
        simp only [Text.isAsciiControl, Bool.or_eq_true, decide_eq_true_eq, beq_iff_eq] at ascii
        omega
      have read := readHexEscape_padded (by decide) fits rest
      rw [List.cons_append, readEscape, read, List.length_cons,
        length_hexDigitsPadded (by decide) fits]
      rfl
    split
    · left
      refine ⟨_, rfl, fun rest => ?_⟩
      have read := readBracedEscape_hexDigits character rest
      simp only [List.cons_append, List.append_assoc, List.nil_append, readEscape, read,
        Except.map, Scanned.widen, List.length_cons, List.length_append, List.length_nil,
        Nat.zero_add]
    · rename_i plain
      right
      exact ⟨rfl, noQuote, noBackslash, Bool.eq_false_iff.mpr plain⟩
  all_goals
    left
    exact ⟨_, rfl, fun rest => rfl⟩

/-- What is printed for a character is read back as the character, whatever follows it. -/
theorem readString_escape (character : Char) (decoded : List Char) (width : Nat)
    (rest : List Char) :
    readString decoded width (Value.escape character ++ rest) =
      readString (character :: decoded) (width + (Value.escape character).length) rest := by
  rcases escape_cases character with
    ⟨tail, escaped, readsBack⟩ | ⟨plain, noQuote, noBackslash, shown⟩
  · rw [escaped, List.cons_append, readString, readsBack rest]
    rfl
  · have noBreak : character ≠ '\n' := by
      rintro rfl
      cases shown
    rw [plain, List.cons_append, List.nil_append, readString]
    · rfl
    · exact noQuote
    · exact noBreak
    · exact noBackslash

/-- The characters of a printed string are read back up to the closing quote. -/
theorem readString_quote (characters decoded : List Char) (width : Nat) (rest : List Char) :
    readString decoded width (characters.flatMap Value.escape ++ '"' :: rest) =
      .ok ⟨String.ofList (decoded.reverse ++ characters),
        width + (characters.flatMap Value.escape).length + 1, rest⟩ := by
  induction characters generalizing decoded width with
  | nil => rw [List.flatMap_nil, List.nil_append, readString, List.append_nil]; rfl
  | cons first others inductionHypothesis =>
    rw [List.flatMap_cons, List.append_assoc, readString_escape, inductionHypothesis,
      List.reverse_cons, List.append_assoc, List.length_append, Nat.add_assoc width]
    rfl

/-! ## Controls -/

theorem not_isControl_of_isAlphanum {character : Char}
    (alphanumeric : character.isAlphanum = true) : Text.isControl character = false := by
  rw [isAlphanum_iff] at alphanumeric
  simp only [Text.isControl, Bool.or_eq_false_iff, Bool.and_eq_false_iff,
    decide_eq_false_iff_not]
  omega

theorem not_isControl_of_isDigitOf {radix : Nat} {character : Char}
    (isDigit : isDigitOf radix character = true) : Text.isControl character = false :=
  not_isControl_of_isAlphanum (isAlphanum_of_isDigitOf isDigit)

/-- Nothing that is printed for a character is a control character. -/
theorem not_isControl_of_mem_escape (character : Char) :
    ∀ shown ∈ Value.escape character, Text.isControl shown = false := by
  unfold Value.escape
  split
  case h_9 =>
    split
    · intro shown member
      rcases List.mem_cons.mp member with rfl | member
      · decide
      rcases List.mem_cons.mp member with rfl | digit
      · decide
      · exact not_isControl_of_isDigitOf (isDigitOf_of_mem_hexDigitsPadded _ _ shown digit)
    split
    · intro shown member
      simp only [List.mem_cons, List.mem_append, List.not_mem_nil, or_false] at member
      rcases member with rfl | rfl | rfl | digit | rfl
      · decide
      · decide
      · decide
      · exact not_isControl_of_isDigitOf (isDigitOf_of_mem_hexDigits _ shown digit)
      · decide
    · rename_i plain
      intro shown member
      rw [List.mem_singleton.mp member]
      exact Bool.eq_false_iff.mpr plain
  all_goals
    intro shown member
    simp only [List.mem_cons, List.not_mem_nil, or_false] at member
    rcases member with rfl | rfl <;> decide

end CompilerFront.Expr
