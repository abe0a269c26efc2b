import CompilerFront.Proofs.Guarded.Evaluator
import CompilerFront.Proofs.Integers.Bits

/-!
Contract: operators on integers give the exact result or say that there is none.

Owns:
- `Comes`, by which a tree evaluates to an outcome and no step on the way leaves the range or is
  otherwise misused, and what it is to yield an integer or to be refused in these terms;
- `floor_div_eq_fdiv` and `isRemainder_fmod`, by which the quotient is the one rounded down and the
  remainder the one that goes with it, of which there is only one;
- `ExactIntegers`, all operators on two integers, without a word on how they are computed.

The steps of the evaluator that could leave the range are those of `CompilerFront.Expr.Guarded`: a
corrected quotient or remainder, a truncated remainder and a shifted word, each with its guard.
-/

namespace CompilerFront.Expr

/-! ## Outcomes -/

/-- A tree evaluates to an outcome, also when every step is guarded: no guard is breached. With both
clauses a statement is about the evaluator and about machine arithmetic at once. -/
structure Comes (tree : Tree) (outcome : Except (Located ComputationFault) Value) : Prop where
  evaluated : tree.evaluate = outcome
  unbreached : Guarded.evaluate tree = .ok outcome

/-- A tree yields an integer, which thus is in range. -/
def Yields (tree : Tree) (number : Int) : Prop :=
  ∃ result : Int128, result.toInt = number ∧ Comes tree (.ok (.int result))

/-- A tree is refused at a column with a message. -/
def Refused (tree : Tree) (column : Nat) (message : String) : Prop :=
  ∃ cause : ComputationFault, cause.message = message ∧ Comes tree (.error ⟨column, cause⟩)

/-- A tree yields an integer if that is in range, and is refused for an overflow if not. -/
structure YieldsInRange (tree : Tree) (column : Nat) (number : Int) : Prop where
  inside : InRange number → Yields tree number
  outside : ¬InRange number → Refused tree column "Integer overflow"

section Outcomes

variable {tree : Tree} {column : Nat}

theorem comes_evaluate (tree : Tree) : Comes tree tree.evaluate :=
  ⟨rfl, Guarded.evaluate_eq tree⟩

theorem yields_of_evaluate {result : Int128}
    (evaluated : tree.evaluate = .ok (.int result)) : Yields tree result.toInt := by
  refine ⟨result, rfl, ?_⟩
  have comes := comes_evaluate tree
  rwa [evaluated] at comes

theorem refused_of_evaluate {cause : ComputationFault}
    (evaluated : tree.evaluate = Outcome.reportedAt column (.error cause)) :
    Refused tree column cause.message := by
  refine ⟨cause, rfl, ?_⟩
  have comes := comes_evaluate tree
  rwa [evaluated] at comes

/-- Rules that bound an unbounded result yield it or overflow. -/
theorem yieldsInRange_of_evaluate {number : Int}
    (evaluated : tree.evaluate = Outcome.reportedAt column ((Outcome.ofInt number).map .int)) :
    YieldsInRange tree column number where
  inside inRange := by
    obtain ⟨result, rfl, -, checked⟩ := Guarded.exists_of_inRange inRange
    rw [checked] at evaluated
    exact yields_of_evaluate evaluated
  outside outOfRange := by
    rw [ofInt_eq_error_iff.mpr ⟨outOfRange, rfl⟩] at evaluated
    exact refused_of_evaluate evaluated

end Outcomes

/-! ## Quotients and remainders -/

/-- The quotient rounded down is the greatest integer that is not above the exact quotient. -/
theorem floor_div_eq_fdiv (left right : Int) : ⌊(left : ℚ) / (right : ℚ)⌋ = left.fdiv right := by
  have nonnegative (dividend : Int) (divisor : Nat) :
      ⌊(dividend : ℚ) / ((divisor : Int) : ℚ)⌋ = dividend.fdiv divisor := by
    rw [Int.cast_natCast, Rat.floor_intCast_div_natCast,
      Int.fdiv_eq_ediv_of_nonneg _ (Int.natCast_nonneg divisor)]
  obtain ⟨divisor, rfl | rfl⟩ := Int.eq_nat_or_neg right
  · exact nonnegative left divisor
  · rw [← Int.neg_fdiv_neg, neg_neg, ← nonnegative, Int.cast_neg, Int.cast_neg, neg_div, div_neg]

/-- A shift to lower places divides by a power of two and rounds down. -/
theorem toInt_shiftRight (number : Int128) (places : Nat) :
    (number.shiftRight places).toInt = ⌊(number.toInt : ℚ) / 2 ^ places⌋ := by
  have power : ((2 ^ places : Nat) : ℚ) = 2 ^ places := by norm_cast
  rw [← power, Rat.floor_intCast_div_natCast]
  exact Int.shiftRight_eq_div_pow number.toInt places

/-- What is left of a dividend when a multiple of the divisor is taken off, between zero and the
divisor. -/
def IsRemainder (dividend divisor rest : Int) : Prop :=
  divisor ∣ dividend - rest ∧ ((0 ≤ rest ∧ rest < divisor) ∨ (divisor < rest ∧ rest ≤ 0))

theorem isRemainder_fmod (dividend : Int) {divisor : Int} (nonzero : divisor ≠ 0) :
    IsRemainder dividend divisor (dividend.fmod divisor) := by
  refine ⟨Int.dvd_self_sub_fmod, ?_⟩
  rcases Int.lt_or_gt_of_ne nonzero with negative | positive
  · have flipped := Int.neg_fmod_neg dividend divisor
    have above := Int.fmod_nonneg_of_pos (-dividend) (Int.neg_pos_of_neg negative)
    have below := Int.fmod_lt_of_pos (-dividend) (Int.neg_pos_of_neg negative)
    omega
  · exact .inl ⟨Int.fmod_nonneg_of_pos dividend positive, Int.fmod_lt_of_pos dividend positive⟩

/-- Two remainders of one division differ by a multiple of the divisor that is smaller than the
divisor. -/
theorem IsRemainder.unique {dividend divisor rest other : Int}
    (isRemainder : IsRemainder dividend divisor rest)
    (isOther : IsRemainder dividend divisor other) : other = rest := by
  obtain ⟨divides, between⟩ := isRemainder
  obtain ⟨otherDivides, otherBetween⟩ := isOther
  have apart : divisor ∣ other - rest := by
    have difference := Int.dvd_sub divides otherDivides
    rwa [sub_sub_sub_cancel_left] at difference
  have close : (other - rest).natAbs < divisor.natAbs := by omega
  have same := Int.eq_zero_of_dvd_of_natAbs_lt_natAbs apart close
  omega

/-- Division by an integer other than 1 and -1 at least halves. -/
theorem inRange_tdiv_of_one_lt (left : Int128) {right : Int} (large : 1 < right.natAbs) :
    InRange (left.toInt.tdiv right) := by
  have dividend := Guarded.natAbs_le left
  have size : (left.toInt.tdiv right).natAbs = left.toInt.natAbs / right.natAbs :=
    Int.natAbs_tdiv left.toInt right
  have halved : left.toInt.natAbs / right.natAbs ≤ left.toInt.natAbs / 2 :=
    Nat.div_le_div_left large (by decide)
  apply Guarded.inRange_of_natAbs_lt
  omega

/-- Of all quotients only one is out of range, that of the least integer by -1. -/
theorem not_inRange_fdiv_iff {left right : Int128} (nonzero : right.toInt ≠ 0) :
    ¬InRange (left.toInt.fdiv right.toInt) ↔ left.toInt = -2 ^ 127 ∧ right.toInt = -1 := by
  have lower := left.lower_le
  have upper := left.lt_upper
  rw [Guarded.inRange_fdiv_iff nonzero]
  constructor
  · intro outside
    have small : ¬1 < right.toInt.natAbs := fun large => outside (inRange_tdiv_of_one_lt left large)
    have unit : right.toInt = 1 ∨ right.toInt = -1 := by omega
    rcases unit with one | minusOne
    · rw [one, Int.tdiv_one] at outside
      exact absurd ⟨lower, upper⟩ outside
    · rw [minusOne, Int.tdiv_neg, Int.tdiv_one] at outside
      unfold InRange at outside
      omega
  · rintro ⟨least, minusOne⟩
    rw [least, minusOne, Int.tdiv_neg, Int.tdiv_one]
    unfold InRange
    omega

/-! ## All operators -/

def onIntegers (operator : BinaryOperator) (left right : Int128) (column : Nat) : Tree :=
  .binary operator (.int left) (.int right) column

/-- On two literals nothing but the rule of the operator is left of evaluation. -/
theorem evaluate_onIntegers {operator : BinaryOperator} {intOperator : IntOperator}
    (role : operator.role = .integer intOperator) (left right : Int128) (column : Nat) :
    (onIntegers operator left right column).evaluate =
      Outcome.reportedAt column (intOperator.apply left right) := by
  rw [onIntegers, Tree.evaluate, role]
  rfl

theorem evaluate_comparison {operator : BinaryOperator} {negated : Bool}
    (role : operator.role = .equality negated) (left right : Int128) (column : Nat) :
    (onIntegers operator left right column).evaluate =
      .ok (.bool (decide (left.toInt = right.toInt) != negated)) := by
  have same : (Value.int left == Value.int right) = decide (left.toInt = right.toInt) := by
    rw [beq_eq_decide, decide_eq_decide, Value.int.injEq]
    exact ⟨congrArg Int128.toInt, Int128.ext⟩
  have comparable : Outcome.equality operator.sign (.int left) (.int right) =
      .ok (Value.int left == Value.int right) := if_pos (.inl rfl)
  rw [onIntegers, Tree.evaluate, role, ← same]
  simp only [Tree.evaluate, Except.bind]
  rw [comparable]
  rfl

section Operators

variable (left right : Int128) (column : Nat)

theorem yieldsInRange_onIntegers {operator : BinaryOperator} {intOperator : IntOperator}
    (role : operator.role = .integer intOperator) {number : Int}
    (ruled : intOperator.apply left right = (Outcome.ofInt number).map .int) :
    YieldsInRange (onIntegers operator left right column) column number := by
  apply yieldsInRange_of_evaluate
  rw [evaluate_onIntegers role, ruled]

theorem yields_onIntegers {operator : BinaryOperator} {intOperator : IntOperator}
    (role : operator.role = .integer intOperator) {result : Int128}
    (ruled : intOperator.apply left right = .ok (.int result)) :
    Yields (onIntegers operator left right column) result.toInt := by
  apply yields_of_evaluate
  rw [evaluate_onIntegers role, ruled, Outcome.reportedAt]

theorem refused_onIntegers {operator : BinaryOperator} {intOperator : IntOperator}
    (role : operator.role = .integer intOperator) {cause : ComputationFault}
    (rejects : RejectsIntegers operator left.toInt right.toInt cause) :
    Refused (onIntegers operator left right column) column cause.message := by
  apply refused_of_evaluate
  rw [evaluate_onIntegers role, (integer_eq_error_iff role).mpr rejects]

end Operators

/-- What the operators make of two integers. The quotient is the exact one rounded down, and shifts
multiply and divide by powers of two; bits are those of two's complement, which do not end. -/
structure ExactIntegers (left right : Int128) (column : Nat) : Prop where
  sum : YieldsInRange (onIntegers .add left right column) column (left.toInt + right.toInt)
  difference :
    YieldsInRange (onIntegers .subtract left right column) column (left.toInt - right.toInt)
  product :
    YieldsInRange (onIntegers .multiply left right column) column (left.toInt * right.toInt)
  negation : YieldsInRange (.unary .negate (.int left) column) column (-left.toInt)
  quotient : right.toInt ≠ 0 →
    YieldsInRange (onIntegers .divide left right column) column
      ⌊(left.toInt : ℚ) / (right.toInt : ℚ)⌋
  largeQuotient : right.toInt ≠ 0 →
    (¬InRange ⌊(left.toInt : ℚ) / (right.toInt : ℚ)⌋ ↔
      left.toInt = -2 ^ 127 ∧ right.toInt = -1)
  remainder : right.toInt ≠ 0 →
    ∃ rest, Yields (onIntegers .modulo left right column) rest ∧
      IsRemainder left.toInt right.toInt rest ∧
      ∀ other, IsRemainder left.toInt right.toInt other → other = rest
  zeroDivisor : right.toInt = 0 →
    Refused (onIntegers .divide left right column) column "Division by zero" ∧
      Refused (onIntegers .modulo left right column) column "Division by zero"
  shiftLeft : 0 ≤ right.toInt ∧ right.toInt ≤ 127 →
    YieldsInRange (onIntegers .shiftLeft left right column) column
      (left.toInt * 2 ^ right.toInt.toNat)
  shiftRight : 0 ≤ right.toInt ∧ right.toInt ≤ 127 →
    Yields (onIntegers .shiftRight left right column)
      ⌊(left.toInt : ℚ) / 2 ^ right.toInt.toNat⌋
  shiftAmount : ¬(0 ≤ right.toInt ∧ right.toInt ≤ 127) →
    Refused (onIntegers .shiftLeft left right column) column "Shift amount out of range" ∧
      Refused (onIntegers .shiftRight left right column) column "Shift amount out of range"
  bitAnd : ∃ result, Yields (onIntegers .bitAnd left right column) result ∧
    ∀ place, result.testBit place = (left.toInt.testBit place && right.toInt.testBit place)
  bitOr : ∃ result, Yields (onIntegers .bitOr left right column) result ∧
    ∀ place, result.testBit place = (left.toInt.testBit place || right.toInt.testBit place)
  bitXor : ∃ result, Yields (onIntegers .bitXor left right column) result ∧
    ∀ place, result.testBit place = (left.toInt.testBit place ^^ right.toInt.testBit place)
  complement : ∃ result, Yields (.unary .complement (.int left) column) result ∧
    ∀ place, result.testBit place = !left.toInt.testBit place
  less : Comes (onIntegers .less left right column)
    (.ok (.bool (decide (left.toInt < right.toInt))))
  lessEqual : Comes (onIntegers .lessEqual left right column)
    (.ok (.bool (decide (left.toInt ≤ right.toInt))))
  greater : Comes (onIntegers .greater left right column)
    (.ok (.bool (decide (left.toInt > right.toInt))))
  greaterEqual : Comes (onIntegers .greaterEqual left right column)
    (.ok (.bool (decide (left.toInt ≥ right.toInt))))
  equal : Comes (onIntegers .equal left right column)
    (.ok (.bool (decide (left.toInt = right.toInt))))
  notEqual : Comes (onIntegers .notEqual left right column)
    (.ok (.bool (decide (left.toInt ≠ right.toInt))))

/-- Every operator on integers is exact: no result is wrapped around, and none is refused that is in
range. Rounding is stated over the rational numbers and the bits over all places, by nothing that
the evaluator computes with. -/
theorem evaluate_exact (left right : Int128) (column : Nat) : ExactIntegers left right column where
  sum := yieldsInRange_onIntegers left right column rfl rfl
  difference := yieldsInRange_onIntegers left right column rfl rfl
  product := yieldsInRange_onIntegers left right column rfl rfl
  negation := yieldsInRange_of_evaluate rfl
  quotient nonzero := by
    rw [floor_div_eq_fdiv]
    apply yieldsInRange_onIntegers left right column rfl
    rw [IntOperator.apply, Outcome.quotient, if_neg nonzero]
  largeQuotient nonzero := by rw [floor_div_eq_fdiv, not_inRange_fdiv_iff nonzero]
  remainder nonzero := by
    have isRemainder := isRemainder_fmod left.toInt nonzero
    refine ⟨_, ?_, isRemainder, fun other => isRemainder.unique⟩
    have yields : YieldsInRange (onIntegers .modulo left right column) column
        (left.toInt.fmod right.toInt) := by
      apply yieldsInRange_onIntegers left right column rfl
      rw [IntOperator.apply, Outcome.remainder, if_neg nonzero]
    exact yields.inside (inRange_fmod left right nonzero)
  zeroDivisor zero := by
    have rejects {operator : BinaryOperator} (divides : operator = .divide ∨ operator = .modulo) :
        RejectsIntegers operator left.toInt right.toInt .divisionByZero := by
      rw [zero]
      exact .zeroDivisor divides
    exact ⟨refused_onIntegers left right column rfl (rejects (.inl rfl)),
      refused_onIntegers left right column rfl (rejects (.inr rfl))⟩
  shiftLeft width := by
    have places : Outcome.shiftAmount right = .ok right.toInt.toNat := if_pos width
    apply yieldsInRange_onIntegers left right column rfl
    rw [IntOperator.apply, Outcome.shiftLeft, places, Except.bind, Int.shiftLeft_eq]
  shiftRight width := by
    have places : Outcome.shiftAmount right = .ok right.toInt.toNat := if_pos width
    rw [← toInt_shiftRight]
    apply yields_onIntegers left right column rfl
    rw [IntOperator.apply, Outcome.shiftRight, places]
    rfl
  shiftAmount outside :=
    ⟨refused_onIntegers left right column rfl (.amount (.inl rfl) outside),
      refused_onIntegers left right column rfl (.amount (.inr rfl) outside)⟩
  bitAnd := ⟨_, yields_onIntegers left right column rfl rfl, left.testBit_and right⟩
  bitOr := ⟨_, yields_onIntegers left right column rfl rfl, left.testBit_or right⟩
  bitXor := ⟨_, yields_onIntegers left right column rfl rfl, left.testBit_xor right⟩
  complement := ⟨_, yields_of_evaluate rfl, left.testBit_complement⟩
  less := comes_evaluate _
  lessEqual := comes_evaluate _
  greater := comes_evaluate _
  greaterEqual := comes_evaluate _
  equal := by
    have comes := comes_evaluate (onIntegers .equal left right column)
    rwa [evaluate_comparison rfl, Bool.bne_false] at comes
  notEqual := by
    have comes := comes_evaluate (onIntegers .notEqual left right column)
    rwa [evaluate_comparison rfl, Bool.bne_true, ← decide_not] at comes

end CompilerFront.Expr
