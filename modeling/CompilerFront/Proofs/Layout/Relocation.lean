import CompilerFront.Expr.Constant
import CompilerFront.Proofs.Grammar.Acceptance

/-!
Contract: what tokens mean does not depend on the columns that they stand at.

Owns:
- `relocate`, the same tokens, tree or fault with other columns;
- `reads_relocate` and `ofTokens_relocate`, by which the same tree is read wherever its tokens
  stand;
- `evaluate_relocate`, by which it has the same value.

A fault moves with the token or the node that it is reported at.
-/

namespace CompilerFront.Expr

/-! ## Other columns -/

section Relocate

variable (move : Nat → Nat)

def Token.relocate (token : Token) : Token := { token with column := move token.column }

def TokenStream.relocate (stream : TokenStream) : TokenStream :=
  ⟨stream.current.relocate move, stream.later.map (Token.relocate move)⟩

/-- The same tree with the columns of its operators moved. -/
def Tree.relocate : Tree → Tree
  | .int number => .int number
  | .bool truth => .bool truth
  | .null => .null
  | .string text => .string text
  | .unary operator operand column => .unary operator operand.relocate (move column)
  | .binary operator left right column =>
    .binary operator left.relocate right.relocate (move column)
  | .conditional condition thenBranch elseBranch column =>
    .conditional condition.relocate thenBranch.relocate elseBranch.relocate (move column)

/-- The same tree, with column zero at all operators. -/
def Tree.columnless (tree : Tree) : Tree := tree.relocate fun _ => 0

def Located.relocate {Cause : Type} (fault : Located Cause) : Located Cause :=
  { fault with column := move fault.column }

def Measured.relocate (read : Measured) : Measured := { read with tree := read.tree.relocate move }

namespace Parser

def Task.relocate : Task → Task
  | .binaryTail loosest left => .binaryTail loosest (left.relocate move)
  | .postfixTail inner => .postfixTail (inner.relocate move)
  | task => task

/-- The same end of a task for tokens at other columns. -/
def ReadOutcome.relocate : ReadOutcome → ReadOutcome
  | .ok (read, rest) => .ok (read.relocate move, rest.relocate move)
  | .error fault => .error (fault.relocate move)

end Parser

end Relocate

/-- Trees that differ in their columns alone are the same without them. -/
theorem columnless_relocate (move : Nat → Nat) (tree : Tree) :
    (tree.relocate move).columnless = tree.columnless := by
  unfold Tree.columnless
  induction tree with
  | int | bool | null | string => rfl
  | unary | binary | conditional => simp only [Tree.relocate, *]

theorem height_relocate (move : Nat → Nat) (tree : Tree) :
    (tree.relocate move).height = tree.height := by
  induction tree with
  | int | bool | null | string => rfl
  | unary | binary | conditional => simp only [Tree.relocate, Tree.height, *]

/-! ## Streams -/

section Streams

variable {move : Nat → Nat} {stream : TokenStream}

@[simp] theorem toList_relocate :
    (stream.relocate move).toList = stream.toList.map (Token.relocate move) := rfl

theorem ofInit_relocate (tokens : List Token) (last : Token) :
    (TokenStream.ofInit tokens last).relocate move =
      .ofInit (tokens.map (Token.relocate move)) (last.relocate move) := by
  cases tokens with
  | nil => rfl
  | cons first others =>
    rw [List.map_cons, TokenStream.ofInit, TokenStream.ofInit, TokenStream.relocate,
      List.map_append]
    rfl

theorem advance_relocate : (stream.relocate move).advance = stream.advance.relocate move := by
  obtain ⟨current, later⟩ := stream
  cases later <;> rfl

theorem stops_relocate {loosest : Nat} (stops : Parser.Stops loosest stream) :
    Parser.Stops loosest (stream.relocate move) := stops

theorem relocate_of_leaf? {kind : TokenKind} {tree : Tree}
    (isLeaf : Parser.leaf? kind = some tree) : tree.relocate move = tree := by
  cases kind <;> cases isLeaf <;> rfl

end Streams

/-! ## Reading -/

namespace Parser

/-- Wherever its tokens stand, a task ends in the same way, by induction on the rules. -/
theorem reads_relocate (move : Nat → Nat) {depth : Nat} {task : Task} {stream : TokenStream}
    {outcome : ReadOutcome} (reads : Reads depth task stream outcome) :
    Reads depth (task.relocate move) (stream.relocate move) (outcome.relocate move) := by
  induction reads with
  | enter room _ body => exact .enter room body
  | enterTooDeep full => exact .enterTooDeep full
  | conditionFault _ condition => exact .conditionFault condition
  | noQuestion _ elsewhere condition => exact .noQuestion condition elsewhere
  | thenFault _ isQuestion _ condition thenBranch =>
    rw [← advance_relocate] at thenBranch
    exact .thenFault condition isQuestion thenBranch
  | noColon _ isQuestion _ elsewhere condition thenBranch =>
    rw [← advance_relocate] at thenBranch
    exact .noColon condition isQuestion thenBranch elsewhere
  | elseFault _ isQuestion _ isColon _ condition thenBranch elseBranch =>
    rw [← advance_relocate] at thenBranch elseBranch
    exact .elseFault condition isQuestion thenBranch isColon elseBranch
  | choice _ isQuestion _ isColon _ low condition thenBranch elseBranch =>
    rw [← advance_relocate] at thenBranch elseBranch
    exact .choice condition isQuestion thenBranch isColon elseBranch low
  | choiceTooHigh _ isQuestion _ isColon _ high condition thenBranch elseBranch =>
    rw [← advance_relocate] at thenBranch elseBranch
    exact .choiceTooHigh condition isQuestion thenBranch isColon elseBranch high
  | leftFault _ left => exact .leftFault left
  | operands _ _ left tail => exact .operands left tail
  | stop stops => exact .stop (stops_relocate stops)
  | rightFault isOperator tight _ right =>
    rw [← advance_relocate] at right
    exact .rightFault isOperator tight right
  | operation isOperator tight _ low _ right tail =>
    rw [← advance_relocate] at right
    exact .operation isOperator tight right low tail
  | operationTooHigh isOperator tight _ high right =>
    rw [← advance_relocate] at right
    exact .operationTooHigh isOperator tight right high
  | unsigned noSign _ inner => exact .unsigned noSign inner
  | signTooDeep isSign full => exact .signTooDeep isSign full
  | signedFault isSign room _ operand =>
    rw [← advance_relocate] at operand
    exact .signedFault isSign room operand
  | signed isSign room _ low operand =>
    rw [← advance_relocate] at operand
    refine .signed ?_ room operand low
    exact isSign
  | signedTooHigh isSign room _ high operand =>
    rw [← advance_relocate] at operand
    exact .signedTooHigh isSign room operand high
  | operandFault _ operand => exact .operandFault operand
  | postfixed _ _ operand tail => exact .postfixed operand tail
  | noMark elsewhere => exact .noMark elsewhere
  | mark isMark low _ tail =>
    rw [← advance_relocate] at tail
    exact .mark isMark low tail
  | markTooHigh isMark high => exact .markTooHigh isMark high
  | leaf isLeaf =>
    rw [ReadOutcome.relocate, ← advance_relocate, Measured.relocate, relocate_of_leaf? isLeaf]
    exact .leaf isLeaf
  | innerFault isOpening _ inner =>
    rw [← advance_relocate] at inner
    exact .innerFault isOpening inner
  | noClosing isOpening _ elsewhere inner =>
    rw [← advance_relocate] at inner
    refine .noClosing ?_ inner elsewhere
    exact isOpening
  | parenthesized isOpening _ isClosing inner =>
    rw [← advance_relocate] at inner
    rw [ReadOutcome.relocate, ← advance_relocate]
    exact .parenthesized isOpening inner isClosing
  | noOperand noLeaf elsewhere => exact .noOperand noLeaf elsewhere

end Parser

/-- Tokens that stand elsewhere are read to the same tree, or refused for the same cause. -/
theorem ofTokens_relocate (move : Nat → Nat) (stream : TokenStream) :
    Tree.ofTokens (stream.relocate move) =
      match Tree.ofTokens stream with
      | .ok tree => .ok (tree.relocate move)
      | .error fault => .error (fault.relocate move) := by
  have moved := Parser.reads_relocate move (Parser.reads_read 0 .conditional stream)
  rw [Grammar.ofTokens_eq, Grammar.ofTokens_eq]
  have outcome : Parser.Task.conditional.read 0 (stream.relocate move) = _ :=
    Parser.read_eq_of_reads moved
  rw [outcome]
  cases Parser.Task.conditional.read 0 stream with
  | error fault => rfl
  | ok found =>
    obtain ⟨read, rest⟩ := found
    have sameKind : (rest.relocate move).current.kind = rest.current.kind := rfl
    simp only [Parser.ReadOutcome.relocate, sameKind]
    by_cases atEnd : rest.current.kind = .endOfText
    · simp only [atEnd, ↓reduceIte]
      rfl
    · simp only [atEnd, ↓reduceIte]
      rfl

/-! ## Evaluation -/

/-- Moving the column before the report or after it makes no difference. -/
theorem reportedAt_relocate {Result : Type} (move : Nat → Nat) (column : Nat)
    (outcome : Outcome Result) :
    Outcome.reportedAt (move column) outcome =
      (Outcome.reportedAt column outcome).mapError (Located.relocate move) := by
  cases outcome <;> rfl

theorem bind_mapError {Fault Other Before After : Type} (change : Fault → Other)
    (before : Except Fault Before) (next : Before → Except Fault After) :
    (before.bind next).mapError change =
      (before.mapError change).bind fun value => (next value).mapError change := by
  cases before <;> rfl

/-- A tree whose operators stand elsewhere has the same value, or fails for the same cause. -/
theorem evaluate_relocate (move : Nat → Nat) (tree : Tree) :
    (tree.relocate move).evaluate = tree.evaluate.mapError (Located.relocate move) := by
  induction tree with
  | int | bool | null | string => rfl
  | unary operator operand column operandEvaluates =>
    simp only [Tree.relocate, Tree.evaluate, operandEvaluates, bind_mapError,
      reportedAt_relocate]
  | binary operator left right column leftEvaluates rightEvaluates =>
    rw [Tree.relocate, Tree.evaluate, Tree.evaluate, leftEvaluates, bind_mapError]
    congr 1
    funext leftValue
    cases operator.role with
    | logical decisive =>
      simp only [rightEvaluates, bind_mapError, reportedAt_relocate]
      congr 1
      funext truth
      split
      · rfl
      · exact (bind_mapError _ _ _).symm
    | equality negated =>
      simp only [rightEvaluates, bind_mapError, reportedAt_relocate]
    | integer intOperator =>
      simp only [rightEvaluates, bind_mapError, reportedAt_relocate]
  | conditional condition thenBranch elseBranch column conditionEvaluates thenEvaluates
      elseEvaluates =>
    simp only [Tree.relocate, Tree.evaluate, conditionEvaluates, thenEvaluates, elseEvaluates,
      bind_mapError, reportedAt_relocate]
    congr 1
    funext value
    congr 1
    funext truth
    split <;> rfl

end CompilerFront.Expr
