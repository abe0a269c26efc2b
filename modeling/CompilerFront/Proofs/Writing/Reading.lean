import CompilerFront.Proofs.Printing.RoundTrip
import CompilerFront.Proofs.Writing.Expression

/-!
Contract: a written expression is read back to its tree.

Owns:
- `Readable`, what can be read of an expression in front of any tokens, at a level of nesting;
- `readable_written`: well-placed expressions are readable as long as neither their levels nor the
  height of their trees exceed the limit;
- `ofTokens_streamOf`, the same for an expression up to the end of the text.

All tokens stand at column zero here, for columns make no difference to what is read.
-/

namespace CompilerFront.Expr

open Grammar (Closes)
open CompilerFront.Expr.Parser (Reads ReadOutcome Stops operatorAt prefixAt leaf?)

/-! ## Streams at column zero -/

def TokenKind.atZero (kind : TokenKind) : Token := ⟨kind, 0⟩

/-- The stream of tokens of these kinds, all at column zero, up to the end of the text. -/
def streamOf (kinds : List TokenKind) : TokenStream :=
  .ofInit (kinds.map TokenKind.atZero) (TokenKind.endOfText.atZero)

theorem advance_streamOf_cons (kind : TokenKind) (kinds : List TokenKind) :
    (streamOf (kind :: kinds)).advance = streamOf kinds :=
  TokenStream.advance_ofInit_cons ..

section Streams

variable {kinds : List TokenKind}

theorem atSymbol_streamOf_cons {symbol : Symbol} :
    (streamOf (.symbol symbol :: kinds)).atSymbol symbol = true :=
  beq_self_eq_true (TokenKind.symbol symbol)

theorem closes_streamOf_closing : Closes (streamOf (.symbol .rightParen :: kinds)) :=
  .inr (.inl rfl)

theorem closes_streamOf_colon : Closes (streamOf (.symbol .colon :: kinds)) :=
  .inr (.inr rfl)

theorem stops_streamOf_question (loosest : Nat) :
    Stops loosest (streamOf (.symbol .question :: kinds)) :=
  Grammar.stops_of_operatorAt rfl loosest

theorem operatorAt_streamOf_binary (operator : BinaryOperator) :
    operatorAt (streamOf (.symbol operator.symbol :: kinds)) = some operator :=
  BinaryOperator.ofSymbol?_eq_some_iff.mpr rfl

theorem prefixAt_streamOf_signed {operator : UnaryOperator} (before : operator ≠ .nonNull) :
    prefixAt (streamOf (.symbol operator.symbol :: kinds)) = some operator := by
  cases operator with
  | nonNull => exact absurd rfl before
  | negate | plus | not | complement => rfl

end Streams

/-- No assertion stands at the head of a stream. -/
abbrev Unmarked (stream : TokenStream) : Prop := stream.atSymbol .bangBang = false

theorem unmarked_binary (operator : BinaryOperator) (kinds : List TokenKind) :
    Unmarked (streamOf (.symbol operator.symbol :: kinds)) := by
  cases operator <;> rfl

/-! ## What can be read -/

section Readable

variable (level : Nat) (written : Written)

/-- It is read as an operand with its assertions, and the loop of these goes on behind it. -/
def ReadsPostfixed : Prop :=
  ∀ (rest : List TokenKind) (outcome : ReadOutcome),
    Reads level (.postfixTail written.tree.measured) (streamOf rest) outcome →
      Reads level .postfixed (streamOf (written.kinds ++ rest)) outcome

/-- It is read as an operand of binary operators. -/
def ReadsUnary : Prop :=
  ∀ rest : List TokenKind, Unmarked (streamOf rest) →
    Reads level .unary (streamOf (written.kinds ++ rest))
      (.ok (written.tree.measured, streamOf rest))

/-- It is read as operands of binary operators that are no looser than it, and the loop of these
goes on behind it. -/
def ReadsBinary : Prop :=
  ∀ (rest : List TokenKind) (loosest : Nat) (outcome : ReadOutcome), Unmarked (streamOf rest) →
    Stops (written.tightness + 1) (streamOf rest) → loosest ≤ written.tightness →
      Reads level (.binaryTail loosest written.tree.measured) (streamOf rest) outcome →
        Reads level (.binary loosest) (streamOf (written.kinds ++ rest)) outcome

/-- What can be read of a written expression on a level of nesting, whatever follows it. How tightly
it binds decides in which places it can stand. -/
structure Readable : Prop where
  postfixed : 12 ≤ written.tightness → ReadsPostfixed level written
  unary : 11 ≤ written.tightness → ReadsUnary level written
  binary : 0 < written.tightness → ReadsBinary level written
  whole : ∀ rest : List TokenKind, Closes (streamOf rest) →
    Reads level .conditionalBody (streamOf (written.kinds ++ rest))
      (.ok (written.tree.measured, streamOf rest))

end Readable

section Classes

variable {level : Nat} {written : Written}

theorem readable_of_binary (loose : written.tightness < 11) (binary : ReadsBinary level written) :
    Readable level written where
  postfixed tight := absurd tight (by omega)
  unary tight := absurd tight (by omega)
  binary _ := binary
  whole rest closes := by
    have stops := Grammar.stops_of_operatorAt (Grammar.operatorAt_of_closes closes)
    have operands := binary rest 0 _ (Grammar.not_mark_of_closes closes) (stops _) (Nat.zero_le _)
      (.stop (stops 0))
    exact .noQuestion operands (Grammar.not_question_of_closes closes)

/-- What is read as the operand of a sign is read in every looser place. -/
theorem readable_of_unary (postfixed : 12 ≤ written.tightness → ReadsPostfixed level written)
    (unary : ReadsUnary level written) : Readable level written where
  postfixed := postfixed
  unary _ := unary
  binary _ rest _ _ unmarked _ _ tail := .operands (unary rest unmarked) tail
  whole rest closes := by
    have stops := Grammar.stops_of_operatorAt (Grammar.operatorAt_of_closes closes)
    have operands := unary rest (Grammar.not_mark_of_closes closes)
    exact .noQuestion (.operands operands (.stop (stops 0))) (Grammar.not_question_of_closes closes)

theorem readable_of_postfixed (postfixed : ReadsPostfixed level written) :
    Readable level written := by
  refine readable_of_unary (fun _ => postfixed) fun rest unmarked => ?_
  have operand := postfixed rest _ (.noMark unmarked)
  exact .unsigned (Grammar.prefixAt_of_climbs (Grammar.climbs_of_reads operand rfl)) operand

end Classes

/-! ## Constructs -/

section Constructs

variable {level : Nat}

theorem readsPostfixed_literal (value : Value) : ReadsPostfixed level (.literal value) := by
  intro rest outcome tail
  have isLeaf : leaf? value.literal = some value.leaf := by cases value <;> rfl
  have single : value.leaf.height = 1 := by cases value <;> rfl
  have operand : Reads level .operand (streamOf (value.literal :: rest)) _ := .leaf isLeaf
  rw [advance_streamOf_cons, ← single] at operand
  exact .postfixed operand tail

/-- What stands in parentheses is a whole expression on the next level. -/
theorem readsPostfixed_parenthesized {inner : Written} (room : level < nestingLimit)
    (readable : Readable (level + 1) inner) : ReadsPostfixed level (.parenthesized inner) := by
  intro rest outcome tail
  have whole := readable.whole (.symbol .rightParen :: rest) closes_streamOf_closing
  rw [← advance_streamOf_cons (.symbol .leftParen)] at whole
  have operand := Reads.parenthesized atSymbol_streamOf_cons (.enter room whole)
    atSymbol_streamOf_cons
  rw [advance_streamOf_cons] at operand
  have read := operand.postfixed tail
  simpa only [Written.kinds, List.cons_append, List.append_assoc, List.nil_append] using read

theorem readsPostfixed_asserted {operand : Written} (tight : 12 ≤ operand.tightness)
    (low : operand.tree.height + 1 ≤ nestingLimit) (readable : Readable level operand) :
    ReadsPostfixed level (.unary .nonNull operand) := by
  intro rest outcome tail
  rw [← advance_streamOf_cons] at tail
  have read := readable.postfixed tight _ _ (.mark atSymbol_streamOf_cons low tail)
  simpa only [Written.kinds, List.append_assoc, List.cons_append, List.nil_append] using read

/-- The operand of a prefix operator stands one level deeper. -/
theorem readsUnary_signed {operator : UnaryOperator} {operand : Written}
    (before : operator ≠ .nonNull) (tight : 11 ≤ operand.tightness) (room : level < nestingLimit)
    (low : operand.tree.height + 1 ≤ nestingLimit) (readable : Readable (level + 1) operand) :
    ReadsUnary level (.unary operator operand) := by
  intro rest unmarked
  have operandRead := readable.unary tight rest unmarked
  rw [← advance_streamOf_cons] at operandRead
  have read := Reads.signed (prefixAt_streamOf_signed before) room operandRead low
  rw [Written.kinds_signed before]
  exact read

/-- The operand on the left is read up to the operator, for it binds as tightly, and the one on the
right up to the rest, for it binds more tightly than what follows. -/
theorem readsBinary_binary {operator : BinaryOperator} {left right : Written}
    (leftTight : operator.precedence ≤ left.tightness)
    (rightTight : operator.precedence < right.tightness)
    (low : max left.tree.height right.tree.height + 1 ≤ nestingLimit)
    (leftReadable : Readable level left) (rightReadable : Readable level right) :
    ReadsBinary level (.binary operator left right) := by
  intro rest loosest outcome unmarked stops loose tail
  have rightStops : Stops (right.tightness + 1) (streamOf rest) := fun next isNext =>
    Nat.lt_trans (stops next isNext) (Nat.succ_lt_succ rightTight)
  have leftStops : Stops (left.tightness + 1)
      (streamOf (.symbol operator.symbol :: (right.kinds ++ rest))) := by
    intro next isNext
    cases (operatorAt_streamOf_binary operator).symm.trans isNext
    exact Nat.lt_succ_of_le leftTight
  have rightRead := rightReadable.binary (Nat.zero_lt_of_lt rightTight) rest _ _ unmarked
    rightStops rightTight (.stop stops)
  rw [← advance_streamOf_cons (.symbol operator.symbol)] at rightRead
  have operation : Reads level (.binaryTail loosest left.tree.measured)
      (streamOf (.symbol operator.symbol :: (right.kinds ++ rest))) outcome :=
    .operation (operatorAt_streamOf_binary operator) loose rightRead low tail
  have read := leftReadable.binary (Nat.lt_of_lt_of_le operator.precedence_pos leftTight) _ _ _
    (unmarked_binary operator _) leftStops (Nat.le_trans loose leftTight) operation
  simpa only [Written.kinds, List.append_assoc, List.cons_append] using read

/-- A condition is read up to the question mark. -/
theorem Readable.condition {written : Written} (readable : Readable level written)
    (tight : 0 < written.tightness) (rest : List TokenKind) :
    Reads level (.binary 0) (streamOf (written.kinds ++ .symbol .question :: rest))
      (.ok (written.tree.measured, streamOf (.symbol .question :: rest))) :=
  readable.binary tight _ 0 _ rfl (stops_streamOf_question _) (Nat.zero_le _)
    (.stop (stops_streamOf_question 0))

/-- The branches of a conditional are whole expressions on the next level. -/
theorem readable_conditional {condition thenBranch elseBranch : Written}
    (tight : 0 < condition.tightness) (room : level < nestingLimit)
    (low : max (max condition.tree.height thenBranch.tree.height) elseBranch.tree.height + 1 ≤
      nestingLimit)
    (conditionReadable : Readable level condition) (thenReadable : Readable (level + 1) thenBranch)
    (elseReadable : Readable (level + 1) elseBranch) :
    Readable level (.conditional condition thenBranch elseBranch) where
  postfixed tight := absurd tight (Nat.not_succ_le_zero 11)
  unary tight := absurd tight (Nat.not_succ_le_zero 10)
  binary tight := absurd tight (Nat.lt_irrefl 0)
  whole rest closes := by
    have elseRead := elseReadable.whole rest closes
    have thenRead := thenReadable.whole (.symbol .colon :: (elseBranch.kinds ++ rest))
      closes_streamOf_colon
    rw [← advance_streamOf_cons (.symbol .colon)] at elseRead
    rw [← advance_streamOf_cons (.symbol .question)] at thenRead
    have read := Reads.choice (conditionReadable.condition tight _) atSymbol_streamOf_cons
      (.enter room thenRead) atSymbol_streamOf_cons (.enter room elseRead) low
    rw [Written.kinds, List.append_assoc, List.cons_append, List.append_assoc, List.cons_append]
    exact read

end Constructs

/-! ## Whole expressions -/

/-- By induction on the written expression; the level goes down with the levels that are still to
come. -/
theorem readable_written (written : Written) (placed : written.WellPlaced) (level : Nat)
    (shallow : level + written.levels ≤ nestingLimit + 1)
    (low : written.tree.height ≤ nestingLimit) : Readable level written := by
  induction written generalizing level with
  | literal value => exact readable_of_postfixed (readsPostfixed_literal value)
  | parenthesized inner inductionHypothesis =>
    have positive := inner.levels_pos
    rw [Written.levels] at shallow
    have readable := inductionHypothesis placed (level + 1) (by omega) low
    exact readable_of_postfixed (readsPostfixed_parenthesized (by omega) readable)
  | unary operator operand inductionHypothesis =>
    obtain ⟨tight, operandPlaced⟩ := placed
    have operandLow : operand.tree.height ≤ nestingLimit := Nat.le_of_succ_le low
    by_cases behind : operator = .nonNull
    · subst behind
      have readable := inductionHypothesis operandPlaced level shallow operandLow
      exact readable_of_postfixed (readsPostfixed_asserted tight low readable)
    · have positive := operand.levels_pos
      rw [Written.levels_signed behind] at shallow
      rw [UnaryOperator.tightness_signed behind] at tight
      have readable := inductionHypothesis operandPlaced (level + 1) (by omega) operandLow
      refine readable_of_unary (fun asserted => ?_)
        (readsUnary_signed behind tight (by omega) low readable)
      rw [Written.tightness, UnaryOperator.tightness_signed behind] at asserted
      exact absurd asserted (by decide)
  | binary operator left right leftHypothesis rightHypothesis =>
    obtain ⟨leftTight, rightTight, leftPlaced, rightPlaced⟩ := placed
    rw [Written.levels] at shallow
    rw [Written.tree, Tree.height] at low
    have leftReadable := leftHypothesis leftPlaced level (by omega) (by omega)
    have rightReadable := rightHypothesis rightPlaced level (by omega) (by omega)
    exact readable_of_binary (Nat.lt_succ_of_le operator.precedence_le)
      (readsBinary_binary leftTight rightTight low leftReadable rightReadable)
  | conditional condition thenBranch elseBranch conditionHypothesis thenHypothesis elseHypothesis =>
    obtain ⟨tight, conditionPlaced, thenPlaced, elsePlaced⟩ := placed
    have positive := thenBranch.levels_pos
    rw [Written.levels] at shallow
    rw [Written.tree, Tree.height] at low
    exact readable_conditional tight (by omega) low
      (conditionHypothesis conditionPlaced level (by omega) (by omega))
      (thenHypothesis thenPlaced (level + 1) (by omega) (by omega))
      (elseHypothesis elsePlaced (level + 1) (by omega) (by omega))

/-- A well-placed expression within the limits is read back to its tree. -/
theorem ofTokens_streamOf {written : Written} (placed : written.WellPlaced)
    (shallow : written.levels ≤ nestingLimit) (low : written.tree.height ≤ nestingLimit) :
    Tree.ofTokens (streamOf written.kinds) = .ok written.tree := by
  have readable := readable_written written placed 1 (by omega) low
  have whole := readable.whole [] (.inl rfl)
  rw [List.append_nil] at whole
  exact ofTokens_of_reads rfl (.enter (by decide) whole)

end CompilerFront.Expr
