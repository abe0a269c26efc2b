import Mathlib
import CompilerFront.Expr.Literal
import CompilerFront.Expr.Value

/-!
Contract: the digits that are printed are the digits that are read.

Owns:
- `positional_toDigits`, by which a printed row of digits has the value that was printed, in every
  radix up to sixteen;
- `readNumber_toDigits`, by which a printed decimal is taken as a number literal, whole and with
  its value.

Does not own: which characters end a number literal (`CompilerFront.Proofs.Printing.Literals`).
-/

namespace CompilerFront.Expr

/-! ## Single digits -/

theorem digitValue?_digitChar :
    ∀ digit < 16, digitValue? (Nat.digitChar digit) = some digit := by decide

theorem isDigitOf_digitChar {radix digit : Nat} (lt : digit < radix) (small : digit < 16) :
    isDigitOf radix (Nat.digitChar digit) = true := by
  rw [isDigitOf, digitValue?_digitChar digit small]
  exact decide_eq_true lt

theorem isAlphanum_iff {character : Char} :
    character.isAlphanum = true ↔
      0x30 ≤ character.toNat ∧ character.toNat ≤ 0x39 ∨
        0x61 ≤ character.toNat ∧ character.toNat ≤ 0x7A ∨
          0x41 ≤ character.toNat ∧ character.toNat ≤ 0x5A := by
  have bounds : '0'.val.toNat = 0x30 ∧ '9'.val.toNat = 0x39 ∧ 'a'.val.toNat = 0x61 ∧
      'z'.val.toNat = 0x7A ∧ 'A'.val.toNat = 0x41 ∧ 'Z'.val.toNat = 0x5A := by decide
  simp only [Char.isAlphanum, Char.isAlpha, Char.isUpper, Char.isLower, Char.isDigit, Char.toNat,
    Bool.or_eq_true, Bool.and_eq_true, decide_eq_true_eq, UInt32.le_iff_toNat_le, ge_iff_le]
  omega

theorem isAlphanum_of_isDigitOf {radix : Nat} {character : Char}
    (isDigit : isDigitOf radix character = true) : character.isAlphanum = true := by
  rw [isAlphanum_iff]
  unfold isDigitOf digitValue? at isDigit
  split at isDigit
  · rename_i value found
    dsimp only at found
    split at found
    · rename_i inside
      exact .inl inside
    split at found
    · rename_i inside
      exact .inr (.inl inside)
    split at found
    · rename_i inside
      exact .inr (.inr inside)
    · cases found
  · cases isDigit

/-! ## Rows of digits -/

section Rows

variable {radix : Nat}

/-- A digit behind a row moves the row one place up. -/
theorem positional_concat (digits : List Char) (last : Char) :
    positional radix (digits ++ [last]) =
      positional radix digits * radix + (digitValue? last).getD 0 := by
  simp only [positional, List.foldl_append, List.foldl_cons, List.foldl_nil]

/-- A zero before a row changes nothing. -/
theorem positional_zero_cons (digits : List Char) :
    positional radix ('0' :: digits) = positional radix digits := by
  have start : 0 * radix + (digitValue? '0').getD 0 = 0 := by
    rw [Nat.zero_mul]
    rfl
  rw [positional, List.foldl_cons, start, positional]

variable (wide : 1 < radix) (narrow : radix ≤ 16)

include wide

/-- What holds of every single digit, and of a row with a digit behind it when it holds of the row,
holds of every printed number. -/
theorem toDigits_induction {property : Nat → List Char → Prop}
    (single : ∀ digit < radix, property digit [Nat.digitChar digit])
    (longer : ∀ number, radix ≤ number →
      property (number / radix) (Nat.toDigits radix (number / radix)) →
      property number (Nat.toDigits radix (number / radix) ++ [Nat.digitChar (number % radix)]))
    (number : Nat) : property number (Nat.toDigits radix number) := by
  induction number using Nat.strongRecOn with
  | ind number inductionHypothesis =>
    rw [Nat.toDigits_eq_if wide]
    split
    · rename_i lt
      exact single number lt
    · rename_i notLt
      have le : radix ≤ number := Nat.le_of_not_lt notLt
      exact longer number le
        (inductionHypothesis (number / radix) (Nat.div_lt_self (by omega) wide))

include narrow

theorem isDigitOf_of_mem_toDigits (number : Nat) :
    ∀ character ∈ Nat.toDigits radix number, isDigitOf radix character = true := by
  induction number using toDigits_induction wide with
  | single digit lt =>
    intro character member
    rw [List.mem_singleton.mp member]
    exact isDigitOf_digitChar lt (Nat.lt_of_lt_of_le lt narrow)
  | longer number _ inductionHypothesis =>
    intro character member
    have lt : number % radix < radix := Nat.mod_lt number (Nat.zero_lt_of_lt wide)
    rcases List.mem_append.mp member with inside | isLast
    · exact inductionHypothesis character inside
    · rw [List.mem_singleton.mp isLast]
      exact isDigitOf_digitChar lt (Nat.lt_of_lt_of_le lt narrow)

theorem positional_toDigits (number : Nat) :
    positional radix (Nat.toDigits radix number) = number := by
  induction number using toDigits_induction wide with
  | single digit lt =>
    rw [positional, List.foldl_cons, List.foldl_nil, Nat.zero_mul, Nat.zero_add,
      digitValue?_digitChar digit (Nat.lt_of_lt_of_le lt narrow), Option.getD_some]
  | longer number _ inductionHypothesis =>
    have lt : number % radix < radix := Nat.mod_lt number (Nat.zero_lt_of_lt wide)
    rw [positional_concat, inductionHypothesis,
      digitValue?_digitChar _ (Nat.lt_of_lt_of_le lt narrow), Option.getD_some]
    exact Nat.div_add_mod' number radix

end Rows

/-- A positive number is printed without a leading zero, which the lexer would reject. -/
theorem head?_toDigits_ne_zero (number : Nat) :
    0 < number → (Nat.toDigits 10 number).head? ≠ some '0' := by
  have nonzero : ∀ digit < 10, 0 < digit → Nat.digitChar digit ≠ '0' := by decide
  induction number using toDigits_induction (show 1 < 10 by decide) with
  | single digit lt =>
    intro positive
    rw [List.head?_cons, ne_eq, Option.some.injEq]
    exact nonzero digit lt positive
  | longer number le inductionHypothesis =>
    intro _
    have higher := inductionHypothesis (Nat.div_pos le (by decide))
    cases shape : Nat.toDigits 10 (number / 10) with
    | nil => exact absurd shape Nat.toDigits_ne_nil
    | cons first others =>
      rw [shape] at higher
      exact higher

/-! ## Decimal literals -/

/-- A row of decimal digits announces no other radix. -/
theorem splitRadix_of_isDigitOf {word : List Char}
    (digits : ∀ character ∈ word, isDigitOf 10 character = true) :
    splitRadix word = (10, word) := by
  unfold splitRadix
  split
  case h_7 => rfl
  all_goals
    have wrong := digits _ (List.mem_cons_of_mem _ List.mem_cons_self)
    cases wrong

/-- Underscores stand singly where there is none. -/
theorem underscoresSingle_of_not_mem {body : List Char} (absent : '_' ∉ body) :
    underscoresSingle body = true := by
  fun_induction underscoresSingle body with
  | case1 => rfl
  | case2 => simp at absent
  | case3 => rfl
  | case4 => simp at absent
  | case5 => simp at absent
  | case6 first rest _ _ _ inductionHypothesis =>
    exact inductionHypothesis fun member => absent (List.mem_cons_of_mem first member)

/-- A printed decimal is read as its number, when it is in range. -/
theorem readNumber_toDigits (number : Nat) :
    readNumber (Nat.toDigits 10 number) =
      match Int128.ofInt? number with
      | some bounded => .ok bounded
      | none => .error .numberTooLarge := by
  have wide : 1 < 10 := by decide
  have narrow : 10 ≤ 16 := by decide
  have digits := isDigitOf_of_mem_toDigits wide narrow number
  have absent : '_' ∉ Nat.toDigits 10 number := Nat.underscore_not_in_toDigits
  have unfiltered : (Nat.toDigits 10 number).filter (· != '_') = Nat.toDigits 10 number := by
    rw [List.filter_eq_self]
    intro character member
    exact bne_iff_ne.mpr fun isUnderscore => absent (isUnderscore ▸ member)
  have allDigits : (Nat.toDigits 10 number).all (isDigitOf 10) = true := List.all_eq_true.mpr digits
  have nonempty : (Nat.toDigits 10 number).isEmpty = false := by
    rw [List.isEmpty_eq_false_iff]
    exact Nat.toDigits_ne_nil
  -- Zero is the only number whose first digit is zero, and it has no further digit.
  have noLeadingZero : (decide ((Nat.toDigits 10 number).length > 1) &&
      (Nat.toDigits 10 number).head? == some '0') = false := by
    rcases Nat.eq_zero_or_pos number with rfl | positive
    · rfl
    · rw [Bool.and_eq_false_iff, beq_eq_false_iff_ne]
      exact .inr (head?_toDigits_ne_zero number positive)
  rw [readNumber, splitRadix_of_isDigitOf digits]
  cases bounded : Int128.ofInt? number
  all_goals simp only [unfiltered, nonempty, underscoresSingle_of_not_mem absent, allDigits,
    noLeadingZero, positional_toDigits wide narrow, bounded, Bool.not_true, Bool.or_self,
    Bool.false_eq_true, ↓reduceIte, beq_self_eq_true, Bool.true_and]

end CompilerFront.Expr
