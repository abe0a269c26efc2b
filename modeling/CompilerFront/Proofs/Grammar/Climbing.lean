import CompilerFront.Proofs.Grammar.Steps

/-!
Contract: reading by precedence climbing without any limit, between the grammar and the reader.

Owns:
- `Climbs`, the successful rules of the reader with the limits on depth and height taken out;
- `climbs_unique`, which makes it a partial function of the stream;
- `reads_of_climbs` and `climbs_of_reads`, by which the reader departs from it only by the fault of
  nesting too deeply.

Does not own: the grammar, whose phrases it reads (`CompilerFront.Proofs.Grammar.Acceptance`).
-/

namespace CompilerFront.Expr

namespace Grammar

open CompilerFront.Expr.Parser (Task Reads ReadOutcome Stops operatorAt prefixAt leaf?)

/-! ## The rules without limits -/

/-- `Climbs task stream read rest`: without limits, the task reads an expression at the head of the
stream and leaves the rest. -/
inductive Climbs : Task → TokenStream → Measured → TokenStream → Prop where
  | enter {stream rest : TokenStream} {read : Measured}
      (body : Climbs .conditionalBody stream read rest) :
      Climbs .conditional stream read rest
  | noQuestion {stream rest : TokenStream} {condition : Measured}
      (conditionRead : Climbs (.binary 0) stream condition rest)
      (elsewhere : rest.atSymbol .question = false) :
      Climbs .conditionalBody stream condition rest
  | choice {stream atQuestion atColon rest : TokenStream}
      {condition thenBranch elseBranch : Measured}
      (conditionRead : Climbs (.binary 0) stream condition atQuestion)
      (isQuestion : atQuestion.atSymbol .question = true)
      (thenRead : Climbs .conditional atQuestion.advance thenBranch atColon)
      (isColon : atColon.atSymbol .colon = true)
      (elseRead : Climbs .conditional atColon.advance elseBranch rest) :
      Climbs .conditionalBody stream
        (.conditional condition thenBranch elseBranch atQuestion.current.column) rest
  | operands {loosest : Nat} {stream middle rest : TokenStream} {left read : Measured}
      (leftRead : Climbs .unary stream left middle)
      (tailRead : Climbs (.binaryTail loosest left) middle read rest) :
      Climbs (.binary loosest) stream read rest
  | stop {loosest : Nat} {stream : TokenStream} {left : Measured}
      (stops : Stops loosest stream) :
      Climbs (.binaryTail loosest left) stream left stream
  | operation {loosest : Nat} {stream middle rest : TokenStream} {left right read : Measured}
      {operator : BinaryOperator}
      (isOperator : operatorAt stream = some operator)
      (tight : loosest ≤ operator.precedence)
      (rightRead : Climbs (.binary (operator.precedence + 1)) stream.advance right middle)
      (tailRead : Climbs (.binaryTail loosest
        (.binary operator left right stream.current.column)) middle read rest) :
      Climbs (.binaryTail loosest left) stream read rest
  | unsigned {stream rest : TokenStream} {read : Measured}
      (noSign : prefixAt stream = none)
      (inner : Climbs .postfixed stream read rest) :
      Climbs .unary stream read rest
  | signed {stream rest : TokenStream} {operator : UnaryOperator} {operand : Measured}
      (isSign : prefixAt stream = some operator)
      (operandRead : Climbs .unary stream.advance operand rest) :
      Climbs .unary stream (.unary operator operand stream.current.column) rest
  | postfixed {stream middle rest : TokenStream} {inner read : Measured}
      (operandRead : Climbs .operand stream inner middle)
      (tailRead : Climbs (.postfixTail inner) middle read rest) :
      Climbs .postfixed stream read rest
  | noMark {stream : TokenStream} {inner : Measured}
      (elsewhere : stream.atSymbol .bangBang = false) :
      Climbs (.postfixTail inner) stream inner stream
  | mark {stream rest : TokenStream} {inner read : Measured}
      (isMark : stream.atSymbol .bangBang = true)
      (tailRead : Climbs (.postfixTail (.unary .nonNull inner stream.current.column))
        stream.advance read rest) :
      Climbs (.postfixTail inner) stream read rest
  | leaf {stream : TokenStream} {tree : Tree}
      (isLeaf : leaf? stream.current.kind = some tree) :
      Climbs .operand stream ⟨tree, 1⟩ stream.advance
  | parenthesized {stream atClosing : TokenStream} {inner : Measured}
      (isOpening : stream.atSymbol .leftParen = true)
      (innerRead : Climbs .conditional stream.advance inner atClosing)
      (isClosing : atClosing.atSymbol .rightParen = true) :
      Climbs .operand stream inner atClosing.advance

/-- The next token decides between the rules, so a task reads a stream in one way at most. -/
theorem climbs_unique {task : Task} {stream : TokenStream} {read other : Measured}
    {rest otherRest : TokenStream} (climbs : Climbs task stream read rest)
    (climbsOther : Climbs task stream other otherRest) : read = other ∧ rest = otherRest := by
  induction climbs generalizing other otherRest with
  | enter _ bodyUnique =>
    cases climbsOther with
    | enter body => exact bodyUnique body
  | noQuestion _ elsewhere conditionUnique =>
    cases climbsOther with
    | noQuestion conditionRead => exact conditionUnique conditionRead
    | choice conditionRead isQuestion =>
      obtain ⟨-, rfl⟩ := conditionUnique conditionRead
      rw [isQuestion] at elsewhere
      cases elsewhere
  | choice _ isQuestion _ isColon _ conditionUnique thenUnique elseUnique =>
    cases climbsOther with
    | noQuestion conditionRead elsewhere =>
      obtain ⟨-, rfl⟩ := conditionUnique conditionRead
      rw [isQuestion] at elsewhere
      cases elsewhere
    | choice conditionRead _ thenRead _ elseRead =>
      obtain ⟨rfl, rfl⟩ := conditionUnique conditionRead
      obtain ⟨rfl, rfl⟩ := thenUnique thenRead
      obtain ⟨rfl, rfl⟩ := elseUnique elseRead
      exact ⟨rfl, rfl⟩
  | operands _ _ leftUnique tailUnique =>
    cases climbsOther with
    | operands leftRead tailRead =>
      obtain ⟨rfl, rfl⟩ := leftUnique leftRead
      exact tailUnique tailRead
  | stop stops =>
    cases climbsOther with
    | stop => exact ⟨rfl, rfl⟩
    | operation isOperator tight =>
      exact absurd tight (Nat.not_le_of_lt (stops _ isOperator))
  | operation isOperator tight _ _ rightUnique tailUnique =>
    cases climbsOther with
    | stop stops => exact absurd tight (Nat.not_le_of_lt (stops _ isOperator))
    | operation isOther _ rightRead tailRead =>
      rw [isOperator] at isOther
      cases isOther
      obtain ⟨rfl, rfl⟩ := rightUnique rightRead
      exact tailUnique tailRead
  | unsigned noSign _ innerUnique =>
    cases climbsOther with
    | unsigned _ inner => exact innerUnique inner
    | signed isSign =>
      rw [noSign] at isSign
      cases isSign
  | signed isSign _ operandUnique =>
    cases climbsOther with
    | unsigned noSign =>
      rw [isSign] at noSign
      cases noSign
    | signed isOther operandRead =>
      rw [isSign] at isOther
      cases isOther
      obtain ⟨rfl, rfl⟩ := operandUnique operandRead
      exact ⟨rfl, rfl⟩
  | postfixed _ _ operandUnique tailUnique =>
    cases climbsOther with
    | postfixed operandRead tailRead =>
      obtain ⟨rfl, rfl⟩ := operandUnique operandRead
      exact tailUnique tailRead
  | noMark elsewhere =>
    cases climbsOther with
    | noMark => exact ⟨rfl, rfl⟩
    | mark isMark =>
      rw [elsewhere] at isMark
      cases isMark
  | mark isMark _ tailUnique =>
    cases climbsOther with
    | noMark elsewhere =>
      rw [isMark] at elsewhere
      cases elsewhere
    | mark _ tailRead => exact tailUnique tailRead
  | leaf isLeaf =>
    cases climbsOther with
    | leaf isOther =>
      rw [isLeaf] at isOther
      cases isOther
      exact ⟨rfl, rfl⟩
    | parenthesized isOpening =>
      rw [Parser.leaf?_eq_none_of_atSymbol isOpening] at isLeaf
      cases isLeaf
  | parenthesized isOpening _ _ innerUnique =>
    cases climbsOther with
    | leaf isLeaf =>
      rw [Parser.leaf?_eq_none_of_atSymbol isOpening] at isLeaf
      cases isLeaf
    | parenthesized _ innerRead =>
      obtain ⟨rfl, rfl⟩ := innerUnique innerRead
      exact ⟨rfl, rfl⟩

/-! ## The reader and its rules without limits -/

/-- An outcome agrees with what is read without limits when it is that, or the fault of nesting too
deeply. -/
def Agrees (outcome : ReadOutcome) (read : Measured) (rest : TokenStream) : Prop :=
  outcome = .ok (read, rest) ∨ ∃ column, outcome = .error ⟨column, .tooDeep⟩

/-- The reader gives what is read without limits, or refuses it for nesting too deeply. -/
theorem reads_of_climbs {task : Task} {stream rest : TokenStream} {read : Measured}
    (climbs : Climbs task stream read rest) (depth : Nat) :
    ∃ outcome, Reads depth task stream outcome ∧ Agrees outcome read rest := by
  induction climbs generalizing depth with
  | enter _ bodyReads =>
    by_cases room : depth < nestingLimit
    · obtain ⟨outcome, reads, agrees⟩ := bodyReads (depth + 1)
      exact ⟨outcome, .enter room reads, agrees⟩
    · exact ⟨_, .enterTooDeep room, .inr ⟨_, rfl⟩⟩
  | noQuestion _ elsewhere conditionReads =>
    obtain ⟨_, conditionRead, rfl | ⟨column, rfl⟩⟩ := conditionReads depth
    · exact ⟨_, .noQuestion conditionRead elsewhere, .inl rfl⟩
    · exact ⟨_, .conditionFault conditionRead, .inr ⟨_, rfl⟩⟩
  | @choice _ _ _ _ condition thenBranch elseBranch _ isQuestion _ isColon _ conditionReads
      thenReads elseReads =>
    obtain ⟨_, conditionRead, rfl | ⟨column, rfl⟩⟩ := conditionReads depth
    rotate_left
    · exact ⟨_, .conditionFault conditionRead, .inr ⟨_, rfl⟩⟩
    obtain ⟨_, thenRead, rfl | ⟨column, rfl⟩⟩ := thenReads depth
    rotate_left
    · exact ⟨_, .thenFault conditionRead isQuestion thenRead, .inr ⟨_, rfl⟩⟩
    obtain ⟨_, elseRead, rfl | ⟨column, rfl⟩⟩ := elseReads depth
    rotate_left
    · exact ⟨_, .elseFault conditionRead isQuestion thenRead isColon elseRead, .inr ⟨_, rfl⟩⟩
    by_cases low : (Measured.conditional condition thenBranch elseBranch 0).height ≤ nestingLimit
    · exact ⟨_, .choice conditionRead isQuestion thenRead isColon elseRead low, .inl rfl⟩
    · exact ⟨_, .choiceTooHigh conditionRead isQuestion thenRead isColon elseRead low,
        .inr ⟨_, rfl⟩⟩
  | operands _ _ leftReads tailReads =>
    obtain ⟨_, leftRead, rfl | ⟨column, rfl⟩⟩ := leftReads depth
    · obtain ⟨outcome, tailRead, agrees⟩ := tailReads depth
      exact ⟨outcome, .operands leftRead tailRead, agrees⟩
    · exact ⟨_, .leftFault leftRead, .inr ⟨_, rfl⟩⟩
  | stop stops => exact ⟨_, .stop stops, .inl rfl⟩
  | @operation _ _ _ _ left right _ operator isOperator tight _ _ rightReads tailReads =>
    obtain ⟨_, rightRead, rfl | ⟨column, rfl⟩⟩ := rightReads depth
    · by_cases low : (Measured.binary operator left right 0).height ≤ nestingLimit
      · obtain ⟨outcome, tailRead, agrees⟩ := tailReads depth
        exact ⟨outcome, .operation isOperator tight rightRead low tailRead, agrees⟩
      · exact ⟨_, .operationTooHigh isOperator tight rightRead low, .inr ⟨_, rfl⟩⟩
    · exact ⟨_, .rightFault isOperator tight rightRead, .inr ⟨_, rfl⟩⟩
  | unsigned noSign _ innerReads =>
    obtain ⟨outcome, inner, agrees⟩ := innerReads depth
    exact ⟨outcome, .unsigned noSign inner, agrees⟩
  | @signed _ _ operator operand isSign _ operandReads =>
    by_cases room : depth < nestingLimit
    · obtain ⟨_, operandRead, rfl | ⟨column, rfl⟩⟩ := operandReads (depth + 1)
      · by_cases low : (Measured.unary operator operand 0).height ≤ nestingLimit
        · exact ⟨_, .signed isSign room operandRead low, .inl rfl⟩
        · exact ⟨_, .signedTooHigh isSign room operandRead low, .inr ⟨_, rfl⟩⟩
      · exact ⟨_, .signedFault isSign room operandRead, .inr ⟨_, rfl⟩⟩
    · exact ⟨_, .signTooDeep isSign room, .inr ⟨_, rfl⟩⟩
  | postfixed _ _ operandReads tailReads =>
    obtain ⟨_, operandRead, rfl | ⟨column, rfl⟩⟩ := operandReads depth
    · obtain ⟨outcome, tailRead, agrees⟩ := tailReads depth
      exact ⟨outcome, .postfixed operandRead tailRead, agrees⟩
    · exact ⟨_, .operandFault operandRead, .inr ⟨_, rfl⟩⟩
  | noMark elsewhere => exact ⟨_, .noMark elsewhere, .inl rfl⟩
  | @mark _ _ inner _ isMark _ tailReads =>
    by_cases low : (Measured.unary .nonNull inner 0).height ≤ nestingLimit
    · obtain ⟨outcome, tailRead, agrees⟩ := tailReads depth
      exact ⟨outcome, .mark isMark low tailRead, agrees⟩
    · exact ⟨_, .markTooHigh isMark low, .inr ⟨_, rfl⟩⟩
  | leaf isLeaf => exact ⟨_, .leaf isLeaf, .inl rfl⟩
  | parenthesized isOpening _ isClosing innerReads =>
    obtain ⟨_, innerRead, rfl | ⟨column, rfl⟩⟩ := innerReads depth
    · exact ⟨_, .parenthesized isOpening innerRead isClosing, .inl rfl⟩
    · exact ⟨_, .innerFault isOpening innerRead, .inr ⟨_, rfl⟩⟩

/-- What the reader gives is what is read without limits. -/
theorem climbs_of_reads {depth : Nat} {task : Task} {stream : TokenStream} {outcome : ReadOutcome}
    (reads : Reads depth task stream outcome) {read : Measured} {rest : TokenStream}
    (given : outcome = .ok (read, rest)) : Climbs task stream read rest := by
  induction reads generalizing read rest with
  | enter _ _ body => exact .enter (body given)
  | noQuestion _ elsewhere condition =>
    cases given
    exact .noQuestion (condition rfl) elsewhere
  | choice _ isQuestion _ isColon _ _ condition thenBranch elseBranch =>
    cases given
    exact .choice (condition rfl) isQuestion (thenBranch rfl) isColon (elseBranch rfl)
  | operands _ _ left tail => exact .operands (left rfl) (tail given)
  | stop stops =>
    cases given
    exact .stop stops
  | operation isOperator tight _ _ _ right tail =>
    exact .operation isOperator tight (right rfl) (tail given)
  | unsigned noSign _ inner => exact .unsigned noSign (inner given)
  | signed isSign _ _ _ operand =>
    cases given
    exact .signed isSign (operand rfl)
  | postfixed _ _ operand tail => exact .postfixed (operand rfl) (tail given)
  | noMark elsewhere =>
    cases given
    exact .noMark elsewhere
  | mark isMark _ _ tail => exact .mark isMark (tail given)
  | leaf isLeaf =>
    cases given
    exact .leaf isLeaf
  | parenthesized isOpening _ isClosing inner =>
    cases given
    exact .parenthesized isOpening (inner rfl) isClosing
  | enterTooDeep | conditionFault | thenFault | noColon | elseFault | choiceTooHigh | leftFault
  | rightFault | operationTooHigh | signTooDeep | signedFault | signedTooHigh | operandFault
  | markTooHigh | innerFault | noClosing | noOperand => cases given

end Grammar

end CompilerFront.Expr
