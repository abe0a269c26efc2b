import CompilerFront.Expr.Lexer
import CompilerFront.Proofs.Printing.Escapes

/-!
Contract: printed literals as tokens.

Owns:
- `lexFrom_of_token`, `lexFrom_of_fault` and `lexFrom_nil`, the steps of cutting a text into tokens;
- `lexFrom_digits`, by which printed digits are one number, or too large a one;
- `lexFrom_literal`, by which a printed value without a minus is one token.

All of these hold wherever the literal stands, if no word goes on behind it.
-/

namespace CompilerFront.Expr

/-! ## Tokens at the head of a text -/

/-- No word goes on at the head of a text. -/
def EndsWord (rest : List Char) : Prop := ∀ character ∈ rest.head?, isWordChar character = false

theorem endsWord_nil : EndsWord [] := fun _ member => nomatch member

theorem isWordChar_of_isDigitOf {radix : Nat} {character : Char}
    (isDigit : isDigitOf radix character = true) : isWordChar character = true := by
  rw [isWordChar, isAlphanum_of_isDigitOf isDigit, Bool.true_or]

section Tokens

variable {first : Char} {others rest : List Char}

theorem readToken_word (inWord : ∀ character ∈ first :: others, isWordChar character = true)
    (ends : EndsWord rest) :
    readToken first (others ++ rest) =
      (readWord (first :: others)).map fun kind => ⟨kind, others.length + 1, rest⟩ := by
  have othersInWord : ∀ character ∈ others, isWordChar character = true :=
    fun character member => inWord character (List.mem_cons_of_mem first member)
  have taken : (others ++ rest).takeWhile isWordChar = others := by
    rw [List.takeWhile_append_of_pos othersInWord]
    cases rest with
    | nil => exact List.append_nil others
    | cons next further =>
      rw [List.takeWhile_cons, ends next rfl]
      exact List.append_nil others
  have left : (others ++ rest).dropWhile isWordChar = rest := by
    rw [List.dropWhile_append_of_pos othersInWord]
    cases rest with
    | nil => rfl
    | cons next further =>
      rw [List.dropWhile_cons, ends next rfl]
      rfl
  rw [readToken, if_pos (inWord first List.mem_cons_self), taken, left]

/-- A character that is neither blank nor a slash starts no gap. -/
theorem skipGap_of_visible (noSlash : first ≠ '/') (visible : Text.isBlank first = false)
    (column : Nat) : skipGap .between column (first :: rest) = .ok (column, first :: rest) := by
  unfold skipGap
  split
  · rename_i shape
    cases shape
    exact absurd rfl noSlash
  · rename_i shape
    cases shape
    exact absurd rfl noSlash
  · rename_i shape
    cases shape
    exact if_neg (Bool.eq_false_iff.mp visible)
  all_goals contradiction

end Tokens

section Steps

variable {seen : List Token} {column : Nat} {first : Char} {rest : List Char}

theorem lexFrom_nil : lexFrom seen column [] = .ok (.ofInit seen.reverse ⟨.endOfText, column⟩) := by
  rw [lexFrom]
  rfl

/-- A text that starts with no gap starts with a token, or with the fault of one. -/
theorem lexFrom_of_visible (noSlash : first ≠ '/') (visible : Text.isBlank first = false) :
    lexFrom seen column (first :: rest) =
      match readToken first rest with
      | .error cause => .error ⟨column, cause⟩
      | .ok scanned =>
        lexFrom (⟨scanned.value, column⟩ :: seen) (column + scanned.width) scanned.rest := by
  have gap : skipGap .between column (first :: rest) = .ok (column, first :: rest) :=
    skipGap_of_visible noSlash visible column
  rw [lexFrom]
  split
  · rename_i skipped
    rw [gap] at skipped
    cases skipped
  · rename_i skipped
    rw [gap] at skipped
    cases skipped
  · rename_i skipped
    rw [gap] at skipped
    cases skipped
    split
    · rename_i failed
      rw [failed]
    · rename_i read
      rw [read]

end Steps

/-! ## Literals at the head of a text -/

theorem visible_of_isWordChar {character : Char} (inWord : isWordChar character = true) :
    character ≠ '/' ∧ Text.isBlank character = false := by
  constructor
  · rintro rfl
    cases inWord
  · rw [isWordChar, Bool.or_eq_true, beq_iff_eq] at inWord
    rcases inWord with alphanumeric | rfl
    · rw [isAlphanum_iff] at alphanumeric
      simp only [Text.isBlank, Bool.or_eq_false_iff, Bool.and_eq_false_iff,
        decide_eq_false_iff_not, beq_eq_false_iff_ne]
      omega
    · decide

section Literals

variable {rest : List Char} (ends : EndsWord rest) (seen : List Token) (column : Nat)

include ends

/-- Printed digits are one number, at the head of any text in which no word goes on behind them. -/
theorem lexFrom_digits (number : Nat) :
    lexFrom seen column (Nat.toDigits 10 number ++ rest) =
      match Int128.ofInt? number with
      | some bounded =>
        lexFrom (⟨.int bounded, column⟩ :: seen) (column + (Nat.toDigits 10 number).length) rest
      | none => .error ⟨column, .numberTooLarge⟩ := by
  have digits := isDigitOf_of_mem_toDigits (show 1 < 10 by decide) (by decide) number
  have asciiDigits : ∀ character ∈ Nat.toDigits 10 number, character.isDigit = true :=
    fun _ member => Nat.isDigit_of_mem_toDigits (by decide) (by decide) member
  have value := readNumber_toDigits number
  cases shape : Nat.toDigits 10 number with
  | nil => exact absurd shape Nat.toDigits_ne_nil
  | cons first others =>
    rw [shape] at digits asciiDigits value
    have inWord : ∀ character ∈ first :: others, isWordChar character = true :=
      fun character member => isWordChar_of_isDigitOf (digits character member)
    obtain ⟨noSlash, visible⟩ := visible_of_isWordChar (inWord first List.mem_cons_self)
    have isNumber : readWord (first :: others) = (readNumber (first :: others)).map .int := by
      rw [readWord, List.head?_cons, Option.map_some, Option.getD_some,
        asciiDigits first List.mem_cons_self, if_pos rfl]
    have token := readToken_word inWord ends
    rw [isNumber, value] at token
    cases bounded : Int128.ofInt? number with
    | none =>
      rw [bounded] at token
      rw [List.cons_append, lexFrom_of_visible noSlash visible, token]
      rfl
    | some inside =>
      rw [bounded] at token
      rw [List.cons_append, lexFrom_of_visible noSlash visible, token]
      rfl

theorem lexFrom_keyword {first : Char} {others : List Char} {kind : TokenKind}
    (inWord : ∀ character ∈ first :: others, isWordChar character = true)
    (isKeyword : readWord (first :: others) = .ok kind) :
    lexFrom seen column (first :: others ++ rest) =
      lexFrom (⟨kind, column⟩ :: seen) (column + (first :: others).length) rest := by
  obtain ⟨noSlash, visible⟩ := visible_of_isWordChar (inWord first List.mem_cons_self)
  have token := readToken_word inWord ends
  rw [isKeyword] at token
  rw [List.cons_append, lexFrom_of_visible noSlash visible, token]
  rfl

end Literals

/-- A printed string is one token, whatever follows it. -/
theorem lexFrom_quote (characters rest : List Char) (seen : List Token) (column : Nat) :
    lexFrom seen column (Value.quote characters ++ rest) =
      lexFrom (⟨.string (String.ofList characters), column⟩ :: seen)
        (column + (Value.quote characters).length) rest := by
  have inside := readString_quote characters [] 1 rest
  rw [Value.quote, List.cons_append, List.append_assoc, List.cons_append, List.nil_append,
    lexFrom_of_visible (by decide) (by decide), readToken, if_neg (by decide), if_pos rfl, inside]
  simp only [Except.map, List.reverse_nil, List.nil_append, List.length_cons, List.length_append,
    List.length_nil, Nat.add_comm, Nat.add_left_comm]

/-! ## Printed values -/

/-- The token that a value without a minus is printed as. -/
def Value.literal : Value → TokenKind
  | .int number => .int number
  | .bool truth => .bool truth
  | .null => .null
  | .string text => .string text

/-- A value without a minus: anything but a negative integer. -/
def Value.Unsigned (value : Value) : Prop := ∀ number, value = .int number → 0 ≤ number.toInt

/-- A printed value without a minus is one token, at the head of any text in which no word goes on
behind it. -/
theorem lexFrom_literal {value : Value} (unsigned : value.Unsigned) {rest : List Char}
    (ends : EndsWord rest) (seen : List Token) (column : Nat) :
    lexFrom seen column (value.characters ++ rest) =
      lexFrom (⟨value.literal, column⟩ :: seen) (column + value.characters.length) rest := by
  cases value with
  | int number =>
    have nonnegative := unsigned number rfl
    have digits := lexFrom_digits ends seen column number.toInt.natAbs
    rw [Int.natAbs_of_nonneg nonnegative, Int128.ofInt?_toInt] at digits
    have printed : (Value.int number).characters = Nat.toDigits 10 number.toInt.natAbs :=
      if_neg (Int.not_lt.mpr nonnegative)
    rw [printed, digits]
    rfl
  | bool truth =>
    cases truth with
    | true => exact lexFrom_keyword ends seen column (List.all_eq_true.mp rfl) rfl
    | false => exact lexFrom_keyword ends seen column (List.all_eq_true.mp rfl) rfl
  | null => exact lexFrom_keyword ends seen column (List.all_eq_true.mp rfl) rfl
  | string text =>
    have quoted := lexFrom_quote text.toList rest seen column
    rw [String.ofList_toList] at quoted
    exact quoted

/-- The sign of a negative number is a token of its own. -/
theorem lexFrom_minus (rest : List Char) (seen : List Token) (column : Nat) :
    lexFrom seen column ('-' :: rest) =
      lexFrom (⟨.symbol .minus, column⟩ :: seen) (column + 1) rest := by
  have single : readSymbol '-' rest = .ok ⟨.symbol .minus, 1, rest⟩ := by
    cases rest <;> rfl
  rw [lexFrom_of_visible (by decide) (by decide), readToken, if_neg (by decide),
    if_neg (by decide), single]

end CompilerFront.Expr
