import Mathlib
import CompilerFront.Expr.Evaluation

/-!
Contract: which operands the rule of an operator rejects, said without the rule.

Owns:
- `InRange`, the integers that values can hold;
- `RejectsOperand` and `RejectsOperands`, the causes for which operators refuse the values of their
  operands: a wrong kind, kinds that cannot be compared, overflow, a zero divisor, a shift amount
  out of range, null where none is allowed;
- the lemmas by which the rules of `CompilerFront.Expr.Evaluation` fail for exactly these causes.

Does not own: which operands are evaluated at all (`CompilerFront.Proofs.Evaluation.Demand`).
-/

namespace CompilerFront.Expr

/-! ## Causes -/

def InRange (number : Int) : Prop := -2 ^ 127 ≤ number ∧ number < 2 ^ 127

/-- The kind that an operator asks of its one operand; `!!` takes any. -/
def UnaryOperator.expects : UnaryOperator → Option Kind
  | .negate | .plus | .complement => some .int
  | .not => some .bool
  | .nonNull => none

/-- Why an operator rejects the value of its one operand. -/
inductive RejectsOperand : UnaryOperator → Value → ComputationFault → Prop where
  | kind {operator : UnaryOperator} {expected : Kind} {value : Value}
      (expects : operator.expects = some expected) (other : value.kind ≠ expected) :
      RejectsOperand operator value (.kindMismatch operator.sign expected value.kind)
  | overflow {number : Int128} (outside : ¬InRange (-number.toInt)) :
      RejectsOperand .negate (.int number) .overflow
  | null : RejectsOperand .nonNull .null .nullValue

/-- Why an operator rejects two integers. The sums and products here are those of unbounded
integers, so a rule says by itself what is out of range. -/
inductive RejectsIntegers : BinaryOperator → Int → Int → ComputationFault → Prop where
  | sum {left right : Int} (outside : ¬InRange (left + right)) :
      RejectsIntegers .add left right .overflow
  | difference {left right : Int} (outside : ¬InRange (left - right)) :
      RejectsIntegers .subtract left right .overflow
  | product {left right : Int} (outside : ¬InRange (left * right)) :
      RejectsIntegers .multiply left right .overflow
  | zeroDivisor {operator : BinaryOperator} {left : Int}
      (divides : operator = .divide ∨ operator = .modulo) :
      RejectsIntegers operator left 0 .divisionByZero
  | quotient {left right : Int} (nonzero : right ≠ 0) (outside : ¬InRange (left.fdiv right)) :
      RejectsIntegers .divide left right .overflow
  | amount {operator : BinaryOperator} {left right : Int}
      (shifts : operator = .shiftLeft ∨ operator = .shiftRight)
      (outside : ¬(0 ≤ right ∧ right ≤ 127)) :
      RejectsIntegers operator left right .shiftOutOfRange
  | lostBits {left right : Int} (amount : 0 ≤ right ∧ right ≤ 127)
      (outside : ¬InRange (left * 2 ^ right.toNat)) :
      RejectsIntegers .shiftLeft left right .overflow

/-- The operators that compare values of any kind. -/
def BinaryOperator.Compares (operator : BinaryOperator) : Prop :=
  operator = .equal ∨ operator = .notEqual

/-- Why an operator that always needs both operands rejects their values. Of two operands that are
no integers the left one is named. -/
inductive RejectsOperands : BinaryOperator → Value → Value → ComputationFault → Prop where
  | incomparable {operator : BinaryOperator} {left right : Value} (compares : operator.Compares)
      (differ : left.kind ≠ right.kind) (leftPresent : left ≠ .null)
      (rightPresent : right ≠ .null) :
      RejectsOperands operator left right (.incomparable left.kind right.kind operator.sign)
  | left {operator : BinaryOperator} {left right : Value} (integral : ¬operator.Compares)
      (other : left.kind ≠ .int) :
      RejectsOperands operator left right (.kindMismatch operator.sign .int left.kind)
  | right {operator : BinaryOperator} {number : Int128} {right : Value}
      (integral : ¬operator.Compares) (other : right.kind ≠ .int) :
      RejectsOperands operator (.int number) right (.kindMismatch operator.sign .int right.kind)
  | integers {operator : BinaryOperator} {left right : Int128} {cause : ComputationFault}
      (rejects : RejectsIntegers operator left.toInt right.toInt cause) :
      RejectsOperands operator (.int left) (.int right) cause

/-! ## Outcomes that fail -/

theorem map_eq_error_iff {Fault Before After : Type} {change : Before → After}
    {result : Except Fault Before} {fault : Fault} :
    result.map change = .error fault ↔ result = .error fault := by
  cases result <;> simp [Except.map]

theorem ofInt_eq_error_iff {number : Int} {cause : ComputationFault} :
    Outcome.ofInt number = .error cause ↔ ¬InRange number ∧ cause = .overflow := by
  have outside : Int128.ofInt? number = none ↔ ¬InRange number := Int128.ofInt?_eq_none_iff
  unfold Outcome.ofInt
  split
  · rename_i bounded found
    constructor
    · intro failed
      cases failed
    · rintro ⟨notInRange, -⟩
      rw [outside.mpr notInRange] at found
      cases found
  · rename_i missing
    constructor
    · rintro ⟨⟩
      exact ⟨outside.mp missing, rfl⟩
    · rintro ⟨-, rfl⟩
      rfl

theorem inRange_fmod (left right : Int128) (nonzero : right.toInt ≠ 0) :
    InRange (left.toInt.fmod right.toInt) := by
  have lower := right.lower_le
  have upper := right.lt_upper
  unfold InRange
  rcases Int.lt_or_gt_of_ne nonzero with negative | positive
  · have flipped := Int.neg_fmod_neg left.toInt right.toInt
    have above := Int.fmod_nonneg_of_pos (-left.toInt) (Int.neg_pos_of_neg negative)
    have below := Int.fmod_lt_of_pos (-left.toInt) (Int.neg_pos_of_neg negative)
    omega
  · have above := Int.fmod_nonneg_of_pos left.toInt positive
    have below := Int.fmod_lt_of_pos left.toInt positive
    omega

/-! ## Rules -/

section Expectations

variable {operator : String} {value : Value} {cause : ComputationFault}

theorem expectInt_eq_error_iff :
    Outcome.expectInt operator value = .error cause ↔
      value.kind ≠ .int ∧ cause = .kindMismatch operator .int value.kind := by
  cases value <;> simp [Outcome.expectInt, Value.kind, eq_comm]

theorem expectBool_eq_error_iff :
    Outcome.expectBool operator value = .error cause ↔
      value.kind ≠ .bool ∧ cause = .kindMismatch operator .bool value.kind := by
  cases value <;> simp [Outcome.expectBool, Value.kind, eq_comm]

end Expectations

/-- The rule of an operator of one operand fails exactly for the causes it rejects its operand. -/
theorem apply_eq_error_iff {operator : UnaryOperator} {value : Value} {cause : ComputationFault} :
    operator.apply value = .error cause ↔ RejectsOperand operator value cause := by
  constructor
  · intro failed
    cases operator with
    | negate =>
      cases value with
      | int number =>
        obtain ⟨outside, rfl⟩ := ofInt_eq_error_iff.mp (map_eq_error_iff.mp failed)
        exact .overflow outside
      | bool | null | string =>
        cases failed
        exact .kind rfl nofun
    | plus | complement =>
      obtain ⟨other, rfl⟩ := expectInt_eq_error_iff.mp (map_eq_error_iff.mp failed)
      exact .kind rfl other
    | not =>
      obtain ⟨other, rfl⟩ := expectBool_eq_error_iff.mp (map_eq_error_iff.mp failed)
      exact .kind rfl other
    | nonNull =>
      cases value with
      | null =>
        cases failed
        exact .null
      | int | bool | string => cases failed
  · intro rejects
    cases rejects with
    | kind expects other =>
      cases operator with
      | negate =>
        cases expects
        rw [UnaryOperator.apply, expectInt_eq_error_iff.mpr ⟨other, rfl⟩]
        rfl
      | plus | complement =>
        cases expects
        exact map_eq_error_iff.mpr (expectInt_eq_error_iff.mpr ⟨other, rfl⟩)
      | not =>
        cases expects
        exact map_eq_error_iff.mpr (expectBool_eq_error_iff.mpr ⟨other, rfl⟩)
      | nonNull => cases expects
    | overflow outside =>
      exact map_eq_error_iff.mpr (ofInt_eq_error_iff.mpr ⟨outside, rfl⟩)
    | null => rfl

/-- Anything may be compared with `null`, so two different kinds are a fault only if neither is
`null`. -/
theorem equality_eq_error_iff {sign : String} {left right : Value} {cause : ComputationFault} :
    Outcome.equality sign left right = .error cause ↔
      left.kind ≠ right.kind ∧ left ≠ .null ∧ right ≠ .null ∧
        cause = .incomparable left.kind right.kind sign := by
  have isNull : ∀ value : Value, value.kind = .null ↔ value = .null := by
    intro value
    cases value <;> simp [Value.kind]
  unfold Outcome.equality
  split
  · rename_i comparable
    rw [isNull, isNull] at comparable
    constructor
    · intro failed
      cases failed
    · rintro ⟨differ, leftPresent, rightPresent, -⟩
      rcases comparable with same | leftNull | rightNull
      · exact absurd same differ
      · exact absurd leftNull leftPresent
      · exact absurd rightNull rightPresent
  · rename_i incomparable
    rw [isNull, isNull, not_or, not_or] at incomparable
    simp only [Except.error.injEq, incomparable, ne_eq, not_false_eq_true, true_and, eq_comm]

theorem shiftAmount_eq_error_iff {amount : Int128} {cause : ComputationFault} :
    Outcome.shiftAmount amount = .error cause ↔
      ¬(0 ≤ amount.toInt ∧ amount.toInt ≤ 127) ∧ cause = .shiftOutOfRange := by
  unfold Outcome.shiftAmount
  split
  · rename_i inside
    simp [inside]
  · rename_i outside
    simp [outside, eq_comm]

/-- Zero is looked at first; the one quotient out of range is that of the least integer by `-1`. -/
theorem quotient_eq_error_iff {left right : Int128} {cause : ComputationFault} :
    Outcome.quotient left right = .error cause ↔
      right.toInt = 0 ∧ cause = .divisionByZero ∨
        right.toInt ≠ 0 ∧ ¬InRange (left.toInt.fdiv right.toInt) ∧ cause = .overflow := by
  unfold Outcome.quotient
  split
  · rename_i zero
    simp [zero, eq_comm]
  · rename_i nonzero
    simp [nonzero, ofInt_eq_error_iff]

/-- A remainder is smaller than its divisor and cannot overflow, not even where the quotient
does. -/
theorem remainder_eq_error_iff {left right : Int128} {cause : ComputationFault} :
    Outcome.remainder left right = .error cause ↔
      right.toInt = 0 ∧ cause = .divisionByZero := by
  unfold Outcome.remainder
  split
  · rename_i zero
    simp [zero, eq_comm]
  · rename_i nonzero
    simp [nonzero, ofInt_eq_error_iff, inRange_fmod left right nonzero]

/-- The amount is looked at before the result: zero shifted by 128 places is out of range and not
zero. -/
theorem shiftLeft_eq_error_iff {number amount : Int128} {cause : ComputationFault} :
    Outcome.shiftLeft number amount = .error cause ↔
      ¬(0 ≤ amount.toInt ∧ amount.toInt ≤ 127) ∧ cause = .shiftOutOfRange ∨
        (0 ≤ amount.toInt ∧ amount.toInt ≤ 127) ∧
          ¬InRange (number.toInt * 2 ^ amount.toInt.toNat) ∧ cause = .overflow := by
  by_cases inside : 0 ≤ amount.toInt ∧ amount.toInt ≤ 127
  · have places : Outcome.shiftAmount amount = .ok amount.toInt.toNat := if_pos inside
    rw [Outcome.shiftLeft, places, Except.bind, ofInt_eq_error_iff, Int.shiftLeft_eq]
    simp [inside]
  · have refused : Outcome.shiftAmount amount = .error .shiftOutOfRange := if_neg inside
    rw [Outcome.shiftLeft, refused, Except.bind]
    simp [inside, eq_comm]

section Integers

variable {operator : BinaryOperator} {intOperator : IntOperator} {left right : Int128}
  {cause : ComputationFault}

/-- One case for each operator. Those on single bits and those that compare never fail. -/
theorem rejectsIntegers_of_error (role : operator.role = .integer intOperator)
    (failed : intOperator.apply left right = .error cause) :
    RejectsIntegers operator left.toInt right.toInt cause := by
  cases operator with
  | or | and | equal | notEqual => cases role
  | bitAnd | bitOr | bitXor | less | lessEqual | greater | greaterEqual =>
    cases role
    cases failed
  | add =>
    cases role
    obtain ⟨outside, rfl⟩ := ofInt_eq_error_iff.mp (map_eq_error_iff.mp failed)
    exact .sum outside
  | subtract =>
    cases role
    obtain ⟨outside, rfl⟩ := ofInt_eq_error_iff.mp (map_eq_error_iff.mp failed)
    exact .difference outside
  | multiply =>
    cases role
    obtain ⟨outside, rfl⟩ := ofInt_eq_error_iff.mp (map_eq_error_iff.mp failed)
    exact .product outside
  | divide =>
    cases role
    rcases quotient_eq_error_iff.mp (map_eq_error_iff.mp failed) with
      ⟨zero, rfl⟩ | ⟨nonzero, outside, rfl⟩
    · rw [zero]
      exact .zeroDivisor (.inl rfl)
    · exact .quotient nonzero outside
  | modulo =>
    cases role
    obtain ⟨zero, rfl⟩ := remainder_eq_error_iff.mp (map_eq_error_iff.mp failed)
    rw [zero]
    exact .zeroDivisor (.inr rfl)
  | shiftLeft =>
    cases role
    rcases shiftLeft_eq_error_iff.mp (map_eq_error_iff.mp failed) with
      ⟨outside, rfl⟩ | ⟨inside, outside, rfl⟩
    · exact .amount (.inl rfl) outside
    · exact .lostBits inside outside
  | shiftRight =>
    cases role
    obtain ⟨outside, rfl⟩ :=
      shiftAmount_eq_error_iff.mp (map_eq_error_iff.mp (map_eq_error_iff.mp failed))
    exact .amount (.inr rfl) outside

theorem error_of_rejectsIntegers (role : operator.role = .integer intOperator)
    (rejects : RejectsIntegers operator left.toInt right.toInt cause) :
    intOperator.apply left right = .error cause := by
  -- The divisor of the rule is the number zero, which the case analysis cannot solve for.
  generalize divisor : right.toInt = rightNumber at rejects
  cases rejects with
  | sum outside | difference outside | product outside =>
    cases role
    subst divisor
    exact map_eq_error_iff.mpr (ofInt_eq_error_iff.mpr ⟨outside, rfl⟩)
  | zeroDivisor divides =>
    rcases divides with rfl | rfl
    · cases role
      exact map_eq_error_iff.mpr (quotient_eq_error_iff.mpr (.inl ⟨divisor, rfl⟩))
    · cases role
      exact map_eq_error_iff.mpr (remainder_eq_error_iff.mpr ⟨divisor, rfl⟩)
  | quotient nonzero outside =>
    cases role
    subst divisor
    exact map_eq_error_iff.mpr (quotient_eq_error_iff.mpr (.inr ⟨nonzero, outside, rfl⟩))
  | amount shifts outside =>
    subst divisor
    rcases shifts with rfl | rfl
    · cases role
      exact map_eq_error_iff.mpr (shiftLeft_eq_error_iff.mpr (.inl ⟨outside, rfl⟩))
    · cases role
      exact map_eq_error_iff.mpr
        (map_eq_error_iff.mpr (shiftAmount_eq_error_iff.mpr ⟨outside, rfl⟩))
  | lostBits inside outside =>
    cases role
    subst divisor
    exact map_eq_error_iff.mpr (shiftLeft_eq_error_iff.mpr (.inr ⟨inside, outside, rfl⟩))

/-- The rule of an operator on integers fails exactly for the causes it rejects them. -/
theorem integer_eq_error_iff (role : operator.role = .integer intOperator) :
    intOperator.apply left right = .error cause ↔
      RejectsIntegers operator left.toInt right.toInt cause :=
  ⟨rejectsIntegers_of_error role, error_of_rejectsIntegers role⟩

end Integers

/-! ## Strict operators -/

/-- The truth value of its left operand with which a logical operator goes on to the right one;
all other operators always do. -/
def BinaryOperator.continuesOn : BinaryOperator → Option Bool
  | .or => some false
  | .and => some true
  | _ => none

/-- An operator that is not logical either compares values or works on integers. -/
theorem role_of_strict {operator : BinaryOperator} (strict : operator.continuesOn = none) :
    (operator.Compares ∧ ∃ negated, operator.role = .equality negated) ∨
      (¬operator.Compares ∧ ∃ intOperator, operator.role = .integer intOperator) := by
  unfold BinaryOperator.Compares
  cases operator with
  | or | and => cases strict
  | equal | notEqual => exact .inl ⟨by decide, _, rfl⟩
  | _ => exact .inr ⟨by decide, _, rfl⟩

theorem not_compares_of_rejectsIntegers {operator : BinaryOperator} {left right : Int}
    {cause : ComputationFault} (rejects : RejectsIntegers operator left right cause) :
    ¬operator.Compares := by
  unfold BinaryOperator.Compares
  cases rejects with
  | zeroDivisor divides => rcases divides with rfl | rfl <;> decide
  | amount shifts => rcases shifts with rfl | rfl <;> decide
  | _ => decide

theorem comparison_eq_error_iff {operator : BinaryOperator} (compares : operator.Compares)
    {negated : Bool} {left right : Value} {cause : ComputationFault} :
    ((Outcome.equality operator.sign left right).map fun same =>
        Value.bool (same != negated)) = .error cause ↔
      RejectsOperands operator left right cause := by
  rw [map_eq_error_iff, equality_eq_error_iff]
  constructor
  · rintro ⟨differ, leftPresent, rightPresent, rfl⟩
    exact .incomparable compares differ leftPresent rightPresent
  · intro rejects
    cases rejects with
    | incomparable _ differ leftPresent rightPresent =>
      exact ⟨differ, leftPresent, rightPresent, rfl⟩
    | left integral | right integral => exact absurd compares integral
    | integers rejects => exact absurd compares (not_compares_of_rejectsIntegers rejects)

/-- The left operand is looked at first: of two operands of a wrong kind the left one is named. -/
theorem applyValues_eq_error_iff {operator : BinaryOperator} {intOperator : IntOperator}
    (integral : ¬operator.Compares) (role : operator.role = .integer intOperator)
    {left right : Value} {cause : ComputationFault} :
    intOperator.applyValues operator.sign left right = .error cause ↔
      RejectsOperands operator left right cause := by
  constructor
  · intro failed
    cases left with
    | int leftNumber =>
      cases right with
      | int rightNumber => exact .integers ((integer_eq_error_iff role).mp failed)
      | bool | null | string =>
        cases failed
        exact .right integral nofun
    | bool | null | string =>
      cases failed
      exact .left integral nofun
  · intro rejects
    cases rejects with
    | incomparable compares => exact absurd compares integral
    | left _ other =>
      rw [IntOperator.applyValues, expectInt_eq_error_iff.mpr ⟨other, rfl⟩]
      rfl
    | right _ other =>
      rw [IntOperator.applyValues, expectInt_eq_error_iff.mpr ⟨other, rfl⟩]
      rfl
    | integers rejects => exact (integer_eq_error_iff role).mpr rejects

/-- An operator that is not logical evaluates both operands and then applies a rule, which fails
exactly for the causes it rejects their values. -/
theorem evaluate_strict {operator : BinaryOperator} (strict : operator.continuesOn = none)
    (left right : Tree) (column : Nat) :
    ∃ rule : Value → Value → Outcome Value,
      (∀ leftValue rightValue cause, rule leftValue rightValue = .error cause ↔
        RejectsOperands operator leftValue rightValue cause) ∧
      (Tree.binary operator left right column).evaluate =
        left.evaluate.bind fun leftValue => right.evaluate.bind fun rightValue =>
          Outcome.reportedAt column (rule leftValue rightValue) := by
  rcases role_of_strict strict with ⟨compares, negated, role⟩ | ⟨integral, intOperator, role⟩
  · refine ⟨_, fun _ _ _ => @comparison_eq_error_iff _ compares negated _ _ _, ?_⟩
    rw [Tree.evaluate, role]
  · refine ⟨_, fun _ _ _ => applyValues_eq_error_iff integral role, ?_⟩
    rw [Tree.evaluate, role]

/-- A logical operator evaluates its left operand, then the right one if the left one does not
decide, and asks each for a truth value as soon as it is there. -/
theorem evaluate_logical {operator : BinaryOperator} {goesOn : Bool}
    (logical : operator.continuesOn = some goesOn) (left right : Tree) (column : Nat) :
    (Tree.binary operator left right column).evaluate =
      left.evaluate.bind fun leftValue =>
        (Outcome.reportedAt column (Outcome.expectBool operator.sign leftValue)).bind fun truth =>
          if truth = goesOn then
            right.evaluate.bind fun rightValue =>
              Outcome.reportedAt column
                ((Outcome.expectBool operator.sign rightValue).map Value.bool)
          else .ok (.bool !goesOn) := by
  have flip : ∀ {Result : Type} (truth : Bool) (first second : Result),
      (if truth = !goesOn then first else second) = if truth = goesOn then second else first := by
    intro Result truth first second
    cases truth <;> cases goesOn <;> rfl
  have role : operator.role = .logical !goesOn := by
    cases operator <;> cases logical <;> rfl
  simp only [Tree.evaluate, role, flip]

/-- Behind a left operand that does not decide, a logical operator is left with its right one. -/
theorem evaluate_logical_open {operator : BinaryOperator} {goesOn : Bool} {left : Tree}
    (logical : operator.continuesOn = some goesOn) (undecided : left.evaluate = .ok (.bool goesOn))
    (right : Tree) (column : Nat) :
    (Tree.binary operator left right column).evaluate =
      right.evaluate.bind fun rightValue =>
        Outcome.reportedAt column
          ((Outcome.expectBool operator.sign rightValue).map Value.bool) := by
  rw [evaluate_logical logical, undecided]
  simp only [Except.bind, Outcome.expectBool, Outcome.reportedAt, ↓reduceIte]

end CompilerFront.Expr
