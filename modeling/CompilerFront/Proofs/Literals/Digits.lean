import CompilerFront.Proofs.Printing.Literals
import Mathlib.Data.List.Forall2
import Mathlib.Data.Nat.Digits.Defs

/-!
Contract: the digits of a base and the numbers that rows of them stand for.

Owns:
- `Base`, the bases in which literals are written;
- `Base.Digit`, a character that stands for a value below the base, letters in either case;
- `Base.number`, the number of a row of values, and `Spelled.positional`, by which the reader gives
  a row of digits this number.

Does not own: underscores between digits (`CompilerFront.Proofs.Literals.Numbers`).
-/

namespace CompilerFront.Expr

inductive Base where
  | binary
  | octal
  | decimal
  | hexadecimal
deriving DecidableEq

namespace Base

def radix : Base → Nat
  | binary => 2
  | octal => 8
  | decimal => 10
  | hexadecimal => 16

theorem radix_le (base : Base) : base.radix ≤ 16 := by
  cases base <;> decide

/-- A character stands for a value below the base; a letter does so in either case. -/
structure Digit (base : Base) (character : Char) (value : Nat) : Prop where
  lt : value < base.radix
  written : character = value.digitChar ∨ character = value.digitChar.toUpper

/-- The number that a row of values stands for in a base, the highest place first. -/
def number (base : Base) (values : List Nat) : Nat := Nat.ofDigits base.radix values.reverse

/-- The characters of a row are the digits of a row of values. -/
def Spelled (base : Base) (row : List Char) (values : List Nat) : Prop :=
  List.Forall₂ base.Digit row values

variable {base : Base} {character : Char} {value : Nat}

/-! ## Single digits -/

theorem digitValue?_toUpper : ∀ value < 16, digitValue? value.digitChar.toUpper = some value := by
  decide

theorem Digit.digitValue? (digit : base.Digit character value) :
    digitValue? character = some value := by
  have small : value < 16 := Nat.lt_of_lt_of_le digit.lt base.radix_le
  obtain rfl | rfl := digit.written
  · exact digitValue?_digitChar value small
  · exact digitValue?_toUpper value small

/-- All characters that have a digit value lie below this point. -/
theorem toNat_lt_of_digitValue? (found : CompilerFront.Expr.digitValue? character = some value) :
    character.toNat < 0x7B := by
  unfold CompilerFront.Expr.digitValue? at found
  dsimp only at found
  split at found
  · omega
  split at found
  · omega
  split at found
  · omega
  · cases found

/-- Checked for every character that could be a digit: the value has no further spelling. -/
theorem written_ofNat : ∀ point < 0x7B, ∀ value < 16,
    CompilerFront.Expr.digitValue? (Char.ofNat point) = some value →
      Char.ofNat point = value.digitChar ∨ Char.ofNat point = value.digitChar.toUpper := by
  decide +kernel

theorem isDigitOf_iff :
    isDigitOf base.radix character = true ↔ ∃ value, base.Digit character value := by
  constructor
  · intro isDigit
    unfold isDigitOf at isDigit
    split at isDigit
    case h_1 value found =>
      have valued := found
      have lt : value < base.radix := of_decide_eq_true isDigit
      have small : value < 16 := Nat.lt_of_lt_of_le lt base.radix_le
      rw [← Char.ofNat_toNat character] at found
      have pointLt := toNat_lt_of_digitValue? valued
      have written := written_ofNat character.toNat pointLt value small found
      rw [Char.ofNat_toNat] at written
      exact ⟨value, lt, written⟩
    case h_2 => cases isDigit
  · rintro ⟨value, digit⟩
    rw [isDigitOf, digit.digitValue?]
    exact decide_eq_true digit.lt

theorem Digit.ne_underscore (digit : base.Digit character value) : character ≠ '_' := by
  rintro rfl
  cases digit.digitValue?

/-- A leading zero can be told by the character alone, in every base. -/
theorem Digit.zero_iff (digit : base.Digit character value) : character = '0' ↔ value = 0 := by
  constructor
  · rintro rfl
    exact Option.some.inj digit.digitValue?.symm
  · rintro rfl
    exact digit.written.elim id id

theorem Digit.isWordChar (digit : base.Digit character value) : isWordChar character = true := by
  have alphanumeric := isAlphanum_of_isDigitOf (isDigitOf_iff.mpr ⟨value, digit⟩)
  rw [CompilerFront.Expr.isWordChar, alphanumeric, Bool.true_or]

/-! ## Rows of digits -/

variable {row : List Char} {values : List Nat}

theorem exists_spelled (digits : ∀ character ∈ row, isDigitOf base.radix character = true) :
    ∃ values, base.Spelled row values := by
  induction row with
  | nil => exact ⟨[], .nil⟩
  | cons first others inductionHypothesis =>
    rw [List.forall_mem_cons] at digits
    obtain ⟨value, digit⟩ := isDigitOf_iff.mp digits.1
    obtain ⟨values, spelled⟩ := inductionHypothesis digits.2
    exact ⟨value :: values, .cons digit spelled⟩

namespace Spelled

theorem digit_of_mem (spelled : base.Spelled row values) :
    ∀ character ∈ row, ∃ value, base.Digit character value := by
  induction spelled with
  | nil => simp
  | cons digit _ inductionHypothesis =>
    exact List.forall_mem_cons.mpr ⟨⟨_, digit⟩, inductionHypothesis⟩

theorem isDigitOf (spelled : base.Spelled row values) :
    ∀ character ∈ row, isDigitOf base.radix character = true :=
  fun character member => isDigitOf_iff.mpr (spelled.digit_of_mem character member)

theorem map_digitValue? (spelled : base.Spelled row values) :
    row.map digitValue? = values.map some := by
  induction spelled with
  | nil => rfl
  | cons digit _ inductionHypothesis => simp [digit.digitValue?, inductionHypothesis]

/-- Digits that are read one by one, each a place below the number so far, have their number. -/
theorem positional (spelled : base.Spelled row values) :
    positional base.radix row = base.number values := by
  have valued : row.map (fun digit => (digitValue? digit).getD 0) = values := by
    rw [← Function.comp_def (fun found : Option Nat => found.getD 0) digitValue?, ← List.map_map,
      spelled.map_digitValue?, List.map_map]
    simp [Function.comp_def]
  rw [CompilerFront.Expr.positional, number, Nat.ofDigits_eq_foldr, List.foldr_reverse, ← valued,
    List.foldl_map]
  simp only [Nat.cast_id, Nat.add_comm, Nat.mul_comm]

end Spelled

end Base

end CompilerFront.Expr
