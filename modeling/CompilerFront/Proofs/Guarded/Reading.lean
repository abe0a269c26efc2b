import CompilerFront.Proofs.Grammar.Steps
import CompilerFront.Proofs.Guarded.Parser

/-!
Contract: the guarded parser comes to what the parser says.

Owns:
- `Follows`, by which a program ends, unbreached and on the depth that it started on, with the
  outcome of a task;
- `follows_of_reads`, by induction on the rules of the reader;
- `runs_parse`, by which the whole program ends with the tree of the tokens or their fault.

No node that has been read is higher than the limit, so that no height can overflow.
-/

namespace CompilerFront.Expr.Guarded.Parser

open CompilerFront.Expr.Parser (Task Reads ReadOutcome Stops operatorAt prefixAt
  leaf?_eq_none_of_atSymbol)
open Machine (andThen orEnd ofChecked)

/-! ## Levels -/

/-- The level at a depth: as many levels are below it as may still be entered. -/
def levelAt (tokens : List Token) (depth : Nat) : Level := levels tokens (nestingLimit - depth)

section Levels

variable {tokens : List Token} {depth : Nat}

theorem exists_levelAt_eq_above (tokens : List Token) (depth : Nat) :
    ∃ deeper, levelAt tokens depth = Level.above tokens deeper := by
  unfold levelAt
  cases nestingLimit - depth with
  | zero => exact ⟨_, rfl⟩
  | succ count => exact ⟨_, rfl⟩

/-- Below a level that may be entered there is the level of the next depth. -/
theorem levelAt_eq_above (room : depth < nestingLimit) :
    levelAt tokens depth = (levelAt tokens (depth + 1)).above tokens := by
  have count : nestingLimit - depth = nestingLimit - (depth + 1) + 1 := by omega
  rw [levelAt, count]
  rfl

theorem conditional_levelAt (room : depth < nestingLimit) :
    (levelAt tokens depth).conditional =
      conditional tokens (conditionalBody tokens (levelAt tokens (depth + 1)).unary
        (levelAt tokens (depth + 1)).conditional) := by
  rw [levelAt_eq_above room]
  rfl

theorem unary_levelAt (room : depth < nestingLimit) :
    (levelAt tokens depth).unary =
      unary tokens (levelAt tokens depth).conditional (levelAt tokens (depth + 1)).unary := by
  rw [levelAt_eq_above room]
  rfl

theorem exists_conditional_levelAt (tokens : List Token) (depth : Nat) :
    ∃ body, (levelAt tokens depth).conditional = conditional tokens body := by
  obtain ⟨deeper, isAbove⟩ := exists_levelAt_eq_above tokens depth
  rw [isAbove]
  exact ⟨_, rfl⟩

theorem exists_unary_levelAt (tokens : List Token) (depth : Nat) :
    ∃ deeper, (levelAt tokens depth).unary =
      unary tokens (levelAt tokens depth).conditional deeper := by
  obtain ⟨deeper, isAbove⟩ := exists_levelAt_eq_above tokens depth
  rw [isAbove]
  exact ⟨_, rfl⟩

/-- A level of operators is an operand and the loop that follows it. -/
theorem binary_eq (tokens : List Token) (operand : Reader) (loosest : Nat) :
    binary tokens operand loosest =
      andThen operand fun left => binaryTail tokens operand loosest left := by
  rw [binary]
  rfl

/-- An operator that is tight enough is left to the recursion. -/
theorem tighterThan_precedence (operand : Reader) {loosest : Nat} {operator : BinaryOperator}
    (tight : loosest ≤ operator.precedence) :
    tighterThan tokens operand loosest (operator.precedence + 1) =
      binary tokens operand (operator.precedence + 1) := by
  have bound := operator.precedence_le
  rw [tighterThan, if_pos (by omega)]

end Levels

/-! ## Tasks -/

/-- The program of a task at a depth. -/
def programOf (tokens : List Token) (depth : Nat) : Task → Reader
  | .conditional => (levelAt tokens depth).conditional
  | .conditionalBody =>
    conditionalBody tokens (levelAt tokens depth).unary (levelAt tokens depth).conditional
  | .binary loosest => binary tokens (levelAt tokens depth).unary loosest
  | .binaryTail loosest left => binaryTail tokens (levelAt tokens depth).unary loosest left
  | .unary => (levelAt tokens depth).unary
  | .postfixed => postfixed tokens (levelAt tokens depth).conditional
  | .postfixTail inner => postfixTail tokens inner
  | .operand => operand tokens (levelAt tokens depth).conditional

/-- What a task is given on its left is not higher than the limit. -/
def GivenLow : Task → Prop
  | .binaryTail _ given | .postfixTail given => given.height ≤ nestingLimit
  | _ => True

/-- `Follows tokens task position depth outcome`: from a position and a depth, the program of the
task ends with the outcome, behind what it read, and on the same depth. -/
def Follows (tokens : List Token) (task : Task) (position depth : Nat) : ReadOutcome → Prop
  | .error fault => ∃ after,
      Runs (programOf tokens depth task) ⟨position, depth⟩ (.error fault) ⟨after, depth⟩
  | .ok (read, rest) => ∃ after, Stands tokens after rest ∧ read.height ≤ nestingLimit ∧
      Runs (programOf tokens depth task) ⟨position, depth⟩ (.ok read) ⟨after, depth⟩

/-- A step of a program leaves the rest of the outcome to what follows. -/
theorem Follows.step {tokens : List Token} {task next : Task}
    {position nextPosition depth nextDepth : Nat} {outcome : ReadOutcome}
    (follows : Follows tokens next nextPosition nextDepth outcome)
    (step : ∀ result after, Runs (programOf tokens nextDepth next) ⟨nextPosition, nextDepth⟩ result
        ⟨after, nextDepth⟩ →
      Runs (programOf tokens depth task) ⟨position, depth⟩ result ⟨after, depth⟩) :
    Follows tokens task position depth outcome := by
  cases outcome with
  | error fault =>
    obtain ⟨after, runs⟩ := follows
    exact ⟨after, step _ _ runs⟩
  | ok found =>
    obtain ⟨after, stands, low, runs⟩ := follows
    exact ⟨after, stands, low, step _ _ runs⟩

section Steps

variable {tokens : List Token} {position depth middle next after : Nat} {stream : TokenStream}
  {result : Parses Measured}

theorem runs_conditionalBody_question {operand branch : Reader} {condition : Measured}
    {atQuestion : TokenStream}
    (conditionRuns : Runs (binary tokens operand 0) ⟨position, depth⟩ (.ok condition)
      ⟨middle, depth⟩)
    (stands : Stands tokens middle atQuestion) (isQuestion : atQuestion.atSymbol .question = true)
    (bumped : Runs (bump tokens) ⟨middle, depth⟩ atQuestion.current ⟨next, depth⟩)
    (runs : Runs (branches tokens branch condition atQuestion.current.column) ⟨next, depth⟩ result
      ⟨after, depth⟩) :
    Runs (conditionalBody tokens operand branch) ⟨position, depth⟩ result ⟨after, depth⟩ := by
  refine runs_andThen conditionRuns (runs_bind (runs_atSymbol stands _) ?_)
  rw [if_pos isQuestion]
  exact runs_bind bumped runs

theorem runs_binaryTail_stop (stands : Stands tokens position stream) {loosest : Nat}
    (stops : Stops loosest stream) (operand : Reader) (left : Measured) :
    Runs (binaryTail tokens operand loosest left) ⟨position, depth⟩ (.ok left)
      ⟨position, depth⟩ := by
  have found : operatorOf stream.current = operatorAt stream := rfl
  apply runs_repeatM_last
  refine runs_bind (runs_peek stands) ?_
  rw [found]
  cases isOperator : operatorAt stream with
  | none => exact runs_pure _
  | some operator =>
    simp only [stops operator isOperator, ↓reduceIte]
    exact runs_pure _

/-- At an operator that is tight enough, its right operand and its node are left to be read. -/
theorem runs_binaryTurn_operator (stands : Stands tokens position stream) {loosest : Nat}
    {operand : Reader} {left : Measured} {operator : BinaryOperator}
    {final : Measured ⊕ Parses Measured} (isOperator : operatorAt stream = some operator)
    (tight : loosest ≤ operator.precedence)
    (bumped : Runs (bump tokens) ⟨position, depth⟩ stream.current ⟨next, depth⟩)
    (runs : Runs (orEnd (binary tokens operand (operator.precedence + 1)) fun right =>
      orEnd (nodeHeight stream.current.column (max left.height right.height)) fun height =>
        pure (.inl ⟨.binary operator left.tree right.tree stream.current.column, height⟩))
      ⟨next, depth⟩ final ⟨after, depth⟩) :
    Runs (binaryTurn tokens (tighterThan tokens operand loosest) loosest left) ⟨position, depth⟩
      final ⟨after, depth⟩ := by
  have small : operator.precedence + 1 < byteLimit := by
    have bound := operator.precedence_le
    unfold byteLimit
    omega
  have found : operatorOf stream.current = some operator := isOperator
  rw [← tighterThan_precedence operand tight] at runs
  refine runs_bind (runs_peek stands) ?_
  rw [found]
  simp only [Nat.not_lt.mpr tight, ↓reduceIte]
  exact runs_bind bumped (runs_bind (runs_ofChecked (if_pos small)) runs)

/-- Behind a prefix operator its operand is read one level deeper. -/
theorem runs_unary_operator (stands : Stands tokens position stream) {inside deeper : Reader}
    {operator : UnaryOperator} (isSign : prefixAt stream = some operator)
    (room : depth < nestingLimit) {inner : Parses Measured}
    (bumped : Runs (bump tokens) ⟨position, depth + 1⟩ stream.current ⟨next, depth + 1⟩)
    (operandRuns : Runs deeper ⟨next, depth + 1⟩ inner ⟨middle, depth + 1⟩)
    (runs : Runs (andThen (pure inner) fun operand =>
      andThen (nodeHeight stream.current.column operand.height) fun height =>
        pure (.ok (⟨.unary operator operand.tree stream.current.column, height⟩ : Measured)))
      ⟨middle, depth⟩ result ⟨after, depth⟩) :
    Runs (unary tokens inside deeper) ⟨position, depth⟩ result ⟨after, depth⟩ := by
  have found : prefixOf stream.current = some operator := isSign
  refine runs_bind (runs_peek stands) ?_
  rw [found]
  exact runs_andThen (runs_enter room)
    (runs_bind bumped (runs_bind operandRuns (runs_bind runs_leave runs)))

theorem runs_postfixTurn_mark (stands : Stands tokens position stream) {inner : Measured}
    {final : Measured ⊕ Parses Measured} (isMark : stream.atSymbol .bangBang = true)
    (bumped : Runs (bump tokens) ⟨position, depth⟩ stream.current ⟨next, depth⟩)
    (runs : Runs (orEnd (nodeHeight stream.current.column inner.height) fun height =>
      pure (.inl ⟨.unary .nonNull inner.tree stream.current.column, height⟩))
      ⟨next, depth⟩ final ⟨after, depth⟩) :
    Runs (postfixTurn tokens inner) ⟨position, depth⟩ final ⟨after, depth⟩ := by
  refine runs_bind (runs_atSymbol stands _) ?_
  rw [if_pos isMark]
  exact runs_bind bumped runs

theorem runs_operand_opening (isOpening : stream.atSymbol .leftParen = true) {inside : Reader}
    (bumped : Runs (bump tokens) ⟨position, depth⟩ stream.current ⟨next, depth⟩)
    (runs : Runs (andThen inside fun inner =>
      andThen (expectSymbol tokens .rightParen .expectedClosing) fun _ => pure (.ok inner))
      ⟨next, depth⟩ result ⟨after, depth⟩) :
    Runs (operand tokens inside) ⟨position, depth⟩ result ⟨after, depth⟩ := by
  have isSymbol : stream.current.kind = .symbol .leftParen := beq_iff_eq.mp isOpening
  refine runs_bind bumped ?_
  rw [leaf?_eq_none_of_atSymbol isOpening]
  simp only [isSymbol, ↓reduceIte]
  exact runs

end Steps

/-- What the rules say of a task, its program comes to; by induction on the rules. -/
theorem follows_of_reads {tokens : List Token} {depth position : Nat} {task : Task}
    {stream : TokenStream} {outcome : ReadOutcome} (reads : Reads depth task stream outcome)
    (stands : Stands tokens position stream) (givenLow : GivenLow task) :
    Follows tokens task position depth outcome := by
  induction reads generalizing position with
  | enter room _ body =>
    refine (body stands trivial).step fun result after runs => ?_
    rw [programOf, conditional_levelAt room]
    exact runs_andThen (runs_enter room) (runs_bind runs (runs_bind runs_leave (runs_pure _)))
  | @enterTooDeep depth _ full =>
    obtain ⟨body, isEntered⟩ := exists_conditional_levelAt tokens depth
    refine ⟨position, ?_⟩
    rw [programOf, isEntered]
    exact runs_andThen_fault (runs_enter_fault stands full)
  | conditionFault _ conditionFollows =>
    obtain ⟨after, runs⟩ := conditionFollows stands trivial
    exact ⟨after, runs_andThen_fault runs⟩
  | noQuestion _ elsewhere conditionFollows =>
    obtain ⟨after, standsAfter, low, runs⟩ := conditionFollows stands trivial
    refine ⟨after, standsAfter, low, ?_⟩
    refine runs_andThen runs (runs_bind (runs_atSymbol standsAfter _) ?_)
    rw [elsewhere]
    exact runs_pure _
  | thenFault _ isQuestion _ conditionFollows thenFollows =>
    obtain ⟨middle, standsMiddle, -, conditionRuns⟩ := conditionFollows stands trivial
    obtain ⟨next, standsNext, bumped⟩ := runs_bump standsMiddle _
    obtain ⟨after, faults⟩ := thenFollows standsNext trivial
    refine ⟨after, ?_⟩
    apply runs_conditionalBody_question conditionRuns standsMiddle isQuestion bumped
    exact runs_andThen_fault faults
  | noColon _ isQuestion _ elsewhere conditionFollows thenFollows =>
    obtain ⟨middle, standsMiddle, -, conditionRuns⟩ := conditionFollows stands trivial
    obtain ⟨next, standsNext, bumped⟩ := runs_bump standsMiddle _
    obtain ⟨after, standsAfter, -, thenRuns⟩ := thenFollows standsNext trivial
    refine ⟨after, ?_⟩
    apply runs_conditionalBody_question conditionRuns standsMiddle isQuestion bumped
    exact runs_andThen thenRuns
      (runs_andThen_fault (runs_expectSymbol_fault standsAfter elsewhere _))
  | elseFault _ isQuestion _ isColon _ conditionFollows thenFollows elseFollows =>
    obtain ⟨middle, standsMiddle, -, conditionRuns⟩ := conditionFollows stands trivial
    obtain ⟨next, standsNext, bumped⟩ := runs_bump standsMiddle _
    obtain ⟨last, standsLast, -, thenRuns⟩ := thenFollows standsNext trivial
    obtain ⟨behind, standsBehind, colonRuns⟩ := runs_expectSymbol standsLast isColon _ _
    obtain ⟨after, faults⟩ := elseFollows standsBehind trivial
    refine ⟨after, ?_⟩
    apply runs_conditionalBody_question conditionRuns standsMiddle isQuestion bumped
    exact runs_andThen thenRuns (runs_andThen colonRuns (runs_andThen_fault faults))
  | choice _ isQuestion _ isColon _ low conditionFollows thenFollows elseFollows =>
    obtain ⟨middle, standsMiddle, -, conditionRuns⟩ := conditionFollows stands trivial
    obtain ⟨next, standsNext, bumped⟩ := runs_bump standsMiddle _
    obtain ⟨last, standsLast, -, thenRuns⟩ := thenFollows standsNext trivial
    obtain ⟨behind, standsBehind, colonRuns⟩ := runs_expectSymbol standsLast isColon _ _
    obtain ⟨after, standsAfter, -, elseRuns⟩ := elseFollows standsBehind trivial
    refine ⟨after, standsAfter, low, ?_⟩
    apply runs_conditionalBody_question conditionRuns standsMiddle isQuestion bumped
    exact runs_andThen thenRuns (runs_andThen colonRuns
      (runs_andThen elseRuns (runs_andThen (runs_nodeHeight low _) (runs_pure _))))
  | choiceTooHigh _ isQuestion _ isColon _ high conditionFollows thenFollows elseFollows =>
    obtain ⟨middle, standsMiddle, lowCondition, conditionRuns⟩ := conditionFollows stands trivial
    obtain ⟨next, standsNext, bumped⟩ := runs_bump standsMiddle _
    obtain ⟨last, standsLast, lowThen, thenRuns⟩ := thenFollows standsNext trivial
    obtain ⟨behind, standsBehind, colonRuns⟩ := runs_expectSymbol standsLast isColon _ _
    obtain ⟨after, standsAfter, lowElse, elseRuns⟩ := elseFollows standsBehind trivial
    have children := Nat.max_le.mpr ⟨Nat.max_le.mpr ⟨lowCondition, lowThen⟩, lowElse⟩
    refine ⟨after, ?_⟩
    apply runs_conditionalBody_question conditionRuns standsMiddle isQuestion bumped
    exact runs_andThen thenRuns (runs_andThen colonRuns
      (runs_andThen elseRuns (runs_andThen_fault (runs_nodeHeight_fault children high _))))
  | leftFault _ leftFollows =>
    obtain ⟨after, faults⟩ := leftFollows stands trivial
    refine ⟨after, ?_⟩
    rw [programOf, binary_eq]
    exact runs_andThen_fault faults
  | operands _ _ leftFollows tailFollows =>
    obtain ⟨middle, standsMiddle, low, leftRuns⟩ := leftFollows stands trivial
    refine (tailFollows standsMiddle low).step fun result after runs => ?_
    rw [programOf, binary_eq]
    exact runs_andThen leftRuns runs
  | stop stops => exact ⟨position, stands, givenLow, runs_binaryTail_stop stands stops _ _⟩
  | rightFault isOperator tight _ rightFollows =>
    obtain ⟨next, standsNext, bumped⟩ := runs_bump stands _
    obtain ⟨after, faults⟩ := rightFollows standsNext trivial
    refine ⟨after, runs_repeatM_last ?_⟩
    exact runs_binaryTurn_operator stands isOperator tight bumped (runs_orEnd_fault faults)
  | operation isOperator tight _ low _ rightFollows tailFollows =>
    obtain ⟨next, standsNext, bumped⟩ := runs_bump stands _
    obtain ⟨last, standsLast, -, rightRuns⟩ := rightFollows standsNext trivial
    refine (tailFollows standsLast low).step fun result after => runs_repeatM_next ?_
    exact runs_binaryTurn_operator stands isOperator tight bumped
      (runs_orEnd rightRuns (runs_orEnd (runs_nodeHeight low _) (runs_pure _)))
  | operationTooHigh isOperator tight _ high rightFollows =>
    obtain ⟨next, standsNext, bumped⟩ := runs_bump stands _
    obtain ⟨after, -, lowRight, rightRuns⟩ := rightFollows standsNext trivial
    have children := Nat.max_le.mpr ⟨givenLow, lowRight⟩
    refine ⟨after, runs_repeatM_last ?_⟩
    exact runs_binaryTurn_operator stands isOperator tight bumped
      (runs_orEnd rightRuns (runs_orEnd_fault (runs_nodeHeight_fault children high _)))
  | @unsigned depth _ _ noSign _ innerFollows =>
    obtain ⟨deeper, isUnary⟩ := exists_unary_levelAt tokens depth
    refine (innerFollows stands trivial).step fun result after runs => ?_
    have found : prefixOf _ = none := noSign
    rw [programOf, isUnary]
    refine runs_bind (runs_peek stands) ?_
    rw [found]
    exact runs
  | @signTooDeep depth _ _ isSign full =>
    obtain ⟨deeper, isUnary⟩ := exists_unary_levelAt tokens depth
    have found : prefixOf _ = some _ := isSign
    refine ⟨position, ?_⟩
    rw [programOf, isUnary]
    refine runs_bind (runs_peek stands) ?_
    rw [found]
    exact runs_andThen_fault (runs_enter_fault stands full)
  | signedFault isSign room _ operandFollows =>
    obtain ⟨next, standsNext, bumped⟩ := runs_bump stands _
    obtain ⟨after, faults⟩ := operandFollows standsNext trivial
    refine ⟨after, ?_⟩
    rw [programOf, unary_levelAt room]
    exact runs_unary_operator stands isSign room bumped faults (runs_andThen_fault (runs_pure _))
  | signed isSign room _ low operandFollows =>
    obtain ⟨next, standsNext, bumped⟩ := runs_bump stands _
    obtain ⟨after, standsAfter, -, operandRuns⟩ := operandFollows standsNext trivial
    refine ⟨after, standsAfter, low, ?_⟩
    rw [programOf, unary_levelAt room]
    exact runs_unary_operator stands isSign room bumped operandRuns
      (runs_andThen (runs_pure _) (runs_andThen (runs_nodeHeight low _) (runs_pure _)))
  | signedTooHigh isSign room _ high operandFollows =>
    obtain ⟨next, standsNext, bumped⟩ := runs_bump stands _
    obtain ⟨after, -, child, operandRuns⟩ := operandFollows standsNext trivial
    refine ⟨after, ?_⟩
    rw [programOf, unary_levelAt room]
    exact runs_unary_operator stands isSign room bumped operandRuns
      (runs_andThen (runs_pure _) (runs_andThen_fault (runs_nodeHeight_fault child high _)))
  | operandFault _ operandFollows =>
    obtain ⟨after, faults⟩ := operandFollows stands trivial
    exact ⟨after, runs_andThen_fault faults⟩
  | postfixed _ _ operandFollows tailFollows =>
    obtain ⟨middle, standsMiddle, low, operandRuns⟩ := operandFollows stands trivial
    exact (tailFollows standsMiddle low).step fun result after runs =>
      runs_andThen operandRuns runs
  | noMark elsewhere =>
    refine ⟨position, stands, givenLow, runs_repeatM_last ?_⟩
    refine runs_bind (runs_atSymbol stands _) ?_
    rw [elsewhere]
    exact runs_pure _
  | mark isMark low _ tailFollows =>
    obtain ⟨next, standsNext, bumped⟩ := runs_bump stands _
    refine (tailFollows standsNext low).step fun result after => runs_repeatM_next ?_
    exact runs_postfixTurn_mark stands isMark bumped
      (runs_orEnd (runs_nodeHeight low _) (runs_pure _))
  | markTooHigh isMark high =>
    obtain ⟨next, -, bumped⟩ := runs_bump stands _
    refine ⟨next, runs_repeatM_last ?_⟩
    exact runs_postfixTurn_mark stands isMark bumped
      (runs_orEnd_fault (runs_nodeHeight_fault givenLow high _))
  | leaf isLeaf =>
    obtain ⟨next, standsNext, bumped⟩ := runs_bump stands _
    refine ⟨next, standsNext, show 1 ≤ nestingLimit by decide, ?_⟩
    refine runs_bind bumped ?_
    rw [isLeaf]
    exact runs_pure _
  | innerFault isOpening _ innerFollows =>
    obtain ⟨next, standsNext, bumped⟩ := runs_bump stands _
    obtain ⟨after, faults⟩ := innerFollows standsNext trivial
    exact ⟨after, runs_operand_opening isOpening bumped (runs_andThen_fault faults)⟩
  | noClosing isOpening _ elsewhere innerFollows =>
    obtain ⟨next, standsNext, bumped⟩ := runs_bump stands _
    obtain ⟨after, standsAfter, -, innerRuns⟩ := innerFollows standsNext trivial
    refine ⟨after, runs_operand_opening isOpening bumped (runs_andThen innerRuns ?_)⟩
    exact runs_andThen_fault (runs_expectSymbol_fault standsAfter elsewhere _)
  | parenthesized isOpening _ isClosing innerFollows =>
    obtain ⟨next, standsNext, bumped⟩ := runs_bump stands _
    obtain ⟨last, standsLast, low, innerRuns⟩ := innerFollows standsNext trivial
    obtain ⟨after, standsAfter, closingRuns⟩ := runs_expectSymbol standsLast isClosing _ _
    exact ⟨after, standsAfter, low, runs_operand_opening isOpening bumped
      (runs_andThen innerRuns (runs_andThen closingRuns (runs_pure _)))⟩
  | noOperand noLeaf elsewhere =>
    obtain ⟨next, -, bumped⟩ := runs_bump stands _
    refine ⟨next, runs_bind bumped ?_⟩
    have noOpening := beq_eq_false_iff_ne.mp elsewhere
    rw [noLeaf]
    simp only [noOpening, ↓reduceIte]
    exact runs_pure _

/-- The tree of the tokens, or their fault, is what the program ends with. -/
theorem runs_parse (stream : TokenStream) :
    ∃ after, Runs (parse stream.toList) ⟨0, 0⟩ (Tree.ofTokens stream) ⟨after, 0⟩ := by
  have stands : Stands stream.toList 0 stream := rfl
  have follows := follows_of_reads (Expr.Parser.reads_read 0 .conditional stream) stands trivial
  rw [Tree.ofTokens]
  rw [Task.read] at follows
  cases outcome : Expr.Parser.conditional 0 stream with
  | error fault =>
    rw [outcome] at follows
    obtain ⟨after, faults⟩ := follows
    exact ⟨after, runs_andThen_fault faults⟩
  | ok found =>
    rw [outcome] at follows
    obtain ⟨⟨read, rest⟩, shorter⟩ := found
    obtain ⟨after, standsAfter, -, runs⟩ := follows
    refine ⟨after, runs_andThen runs (runs_bind (runs_peek standsAfter) ?_)⟩
    by_cases atEnd : rest.current.kind = .endOfText
    · simp only [atEnd, ne_eq, not_true_eq_false, ↓reduceIte]
      exact runs_pure _
    · simp only [atEnd, ne_eq, not_false_eq_true, ↓reduceIte]
      exact runs_pure _

end CompilerFront.Expr.Guarded.Parser
