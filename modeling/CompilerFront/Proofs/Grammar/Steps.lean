import CompilerFront.Expr.Parser

/-!
Contract: what the reader of expressions can do, one rule for each way through its functions.

Owns:
- `Task`, which names a function of the reader with its parameters, and `Task.read`, its outcome;
- `Reads`, the rules, failures included; `reads_read` shows that every outcome follows them.

Everything that holds of all runs of the reader is shown by induction on `Reads`; the functions
themselves are opened in this module only.
-/

namespace CompilerFront.Expr

/-! ## Nodes -/

def Measured.conditional (condition thenBranch elseBranch : Measured) (column : Nat) : Measured :=
  ⟨.conditional condition.tree thenBranch.tree elseBranch.tree column,
    max (max condition.height thenBranch.height) elseBranch.height + 1⟩

def Measured.binary (operator : BinaryOperator) (left right : Measured) (column : Nat) : Measured :=
  ⟨.binary operator left.tree right.tree column, max left.height right.height + 1⟩

def Measured.unary (operator : UnaryOperator) (operand : Measured) (column : Nat) : Measured :=
  ⟨.unary operator operand.tree column, operand.height + 1⟩

namespace Parser

/-! ## Tasks -/

/-- What the reader is asked for: one of its functions, with what it was given on the left. -/
inductive Task where
  | conditional
  | conditionalBody
  | binary (loosest : Nat)
  | binaryTail (loosest : Nat) (left : Measured)
  | unary
  | postfixed
  | postfixTail (inner : Measured)
  | operand
deriving DecidableEq, Repr

/-- The end of a task: an expression and the stream behind it, or a fault. -/
abbrev ReadOutcome : Type := Except (Located SyntaxFault) (Measured × TokenStream)

/-- The outcome of a task at a depth and a stream. -/
def Task.read (depth : Nat) (stream : TokenStream) : Task → ReadOutcome
  | .conditional => (Parser.conditional depth stream).map Subtype.val
  | .conditionalBody => (Parser.conditionalBody depth stream).map Subtype.val
  | .binary loosest => (Parser.binary depth loosest stream).map Subtype.val
  | .binaryTail loosest left => (Parser.binaryTail depth loosest left stream).map Subtype.val
  | .unary => (Parser.unary depth stream).map Subtype.val
  | .postfixed => (Parser.postfixed depth stream).map Subtype.val
  | .postfixTail inner => (Parser.postfixTail inner stream).map Subtype.val
  | .operand => (Parser.operand depth stream).map Subtype.val

/-- No binary operator of a precedence or a tighter one stands at the head of a stream. -/
def Stops (loosest : Nat) (stream : TokenStream) : Prop :=
  ∀ operator, operatorAt stream = some operator → operator.precedence < loosest

/-! ## Rules -/

/-- `Reads depth task stream outcome`: at a depth and a stream, the task ends with the outcome.
There is one rule for each way that a function of the reader can go, those to its faults
included. -/
inductive Reads : Nat → Task → TokenStream → ReadOutcome → Prop where
  | enter {depth : Nat} {stream : TokenStream} {outcome : ReadOutcome}
      (room : depth < nestingLimit)
      (body : Reads (depth + 1) .conditionalBody stream outcome) :
      Reads depth .conditional stream outcome
  | enterTooDeep {depth : Nat} {stream : TokenStream}
      (full : ¬depth < nestingLimit) :
      Reads depth .conditional stream (.error ⟨stream.current.column, .tooDeep⟩)
  | conditionFault {depth : Nat} {stream : TokenStream} {fault : Located SyntaxFault}
      (conditionRead : Reads depth (.binary 0) stream (.error fault)) :
      Reads depth .conditionalBody stream (.error fault)
  | noQuestion {depth : Nat} {stream rest : TokenStream} {condition : Measured}
      (conditionRead : Reads depth (.binary 0) stream (.ok (condition, rest)))
      (elsewhere : rest.atSymbol .question = false) :
      Reads depth .conditionalBody stream (.ok (condition, rest))
  | thenFault {depth : Nat} {stream atQuestion : TokenStream} {condition : Measured}
      {fault : Located SyntaxFault}
      (conditionRead : Reads depth (.binary 0) stream (.ok (condition, atQuestion)))
      (isQuestion : atQuestion.atSymbol .question = true)
      (thenRead : Reads depth .conditional atQuestion.advance (.error fault)) :
      Reads depth .conditionalBody stream (.error fault)
  | noColon {depth : Nat} {stream atQuestion rest : TokenStream} {condition thenBranch : Measured}
      (conditionRead : Reads depth (.binary 0) stream (.ok (condition, atQuestion)))
      (isQuestion : atQuestion.atSymbol .question = true)
      (thenRead : Reads depth .conditional atQuestion.advance (.ok (thenBranch, rest)))
      (elsewhere : rest.atSymbol .colon = false) :
      Reads depth .conditionalBody stream (.error ⟨rest.current.column, .expectedColon⟩)
  | elseFault {depth : Nat} {stream atQuestion atColon : TokenStream}
      {condition thenBranch : Measured} {fault : Located SyntaxFault}
      (conditionRead : Reads depth (.binary 0) stream (.ok (condition, atQuestion)))
      (isQuestion : atQuestion.atSymbol .question = true)
      (thenRead : Reads depth .conditional atQuestion.advance (.ok (thenBranch, atColon)))
      (isColon : atColon.atSymbol .colon = true)
      (elseRead : Reads depth .conditional atColon.advance (.error fault)) :
      Reads depth .conditionalBody stream (.error fault)
  | choice {depth : Nat} {stream atQuestion atColon rest : TokenStream}
      {condition thenBranch elseBranch : Measured}
      (conditionRead : Reads depth (.binary 0) stream (.ok (condition, atQuestion)))
      (isQuestion : atQuestion.atSymbol .question = true)
      (thenRead : Reads depth .conditional atQuestion.advance (.ok (thenBranch, atColon)))
      (isColon : atColon.atSymbol .colon = true)
      (elseRead : Reads depth .conditional atColon.advance (.ok (elseBranch, rest)))
      (low : (Measured.conditional condition thenBranch elseBranch
        atQuestion.current.column).height ≤ nestingLimit) :
      Reads depth .conditionalBody stream
        (.ok (.conditional condition thenBranch elseBranch atQuestion.current.column, rest))
  | choiceTooHigh {depth : Nat} {stream atQuestion atColon rest : TokenStream}
      {condition thenBranch elseBranch : Measured}
      (conditionRead : Reads depth (.binary 0) stream (.ok (condition, atQuestion)))
      (isQuestion : atQuestion.atSymbol .question = true)
      (thenRead : Reads depth .conditional atQuestion.advance (.ok (thenBranch, atColon)))
      (isColon : atColon.atSymbol .colon = true)
      (elseRead : Reads depth .conditional atColon.advance (.ok (elseBranch, rest)))
      (high : ¬(Measured.conditional condition thenBranch elseBranch
        atQuestion.current.column).height ≤ nestingLimit) :
      Reads depth .conditionalBody stream (.error ⟨atQuestion.current.column, .tooDeep⟩)
  | leftFault {depth loosest : Nat} {stream : TokenStream} {fault : Located SyntaxFault}
      (leftRead : Reads depth .unary stream (.error fault)) :
      Reads depth (.binary loosest) stream (.error fault)
  | operands {depth loosest : Nat} {stream middle : TokenStream} {left : Measured}
      {outcome : ReadOutcome}
      (leftRead : Reads depth .unary stream (.ok (left, middle)))
      (tailRead : Reads depth (.binaryTail loosest left) middle outcome) :
      Reads depth (.binary loosest) stream outcome
  | stop {depth loosest : Nat} {stream : TokenStream} {left : Measured}
      (stops : Stops loosest stream) :
      Reads depth (.binaryTail loosest left) stream (.ok (left, stream))
  | rightFault {depth loosest : Nat} {stream : TokenStream} {left : Measured}
      {operator : BinaryOperator} {fault : Located SyntaxFault}
      (isOperator : operatorAt stream = some operator)
      (tight : loosest ≤ operator.precedence)
      (rightRead : Reads depth (.binary (operator.precedence + 1)) stream.advance (.error fault)) :
      Reads depth (.binaryTail loosest left) stream (.error fault)
  | operation {depth loosest : Nat} {stream middle : TokenStream} {left right : Measured}
      {operator : BinaryOperator} {outcome : ReadOutcome}
      (isOperator : operatorAt stream = some operator)
      (tight : loosest ≤ operator.precedence)
      (rightRead : Reads depth (.binary (operator.precedence + 1)) stream.advance
        (.ok (right, middle)))
      (low : (Measured.binary operator left right stream.current.column).height ≤ nestingLimit)
      (tailRead : Reads depth
        (.binaryTail loosest (.binary operator left right stream.current.column)) middle outcome) :
      Reads depth (.binaryTail loosest left) stream outcome
  | operationTooHigh {depth loosest : Nat} {stream middle : TokenStream} {left right : Measured}
      {operator : BinaryOperator}
      (isOperator : operatorAt stream = some operator)
      (tight : loosest ≤ operator.precedence)
      (rightRead : Reads depth (.binary (operator.precedence + 1)) stream.advance
        (.ok (right, middle)))
      (high : ¬(Measured.binary operator left right stream.current.column).height ≤ nestingLimit) :
      Reads depth (.binaryTail loosest left) stream (.error ⟨stream.current.column, .tooDeep⟩)
  | unsigned {depth : Nat} {stream : TokenStream} {outcome : ReadOutcome}
      (noSign : prefixAt stream = none)
      (inner : Reads depth .postfixed stream outcome) :
      Reads depth .unary stream outcome
  | signTooDeep {depth : Nat} {stream : TokenStream} {operator : UnaryOperator}
      (isSign : prefixAt stream = some operator)
      (full : ¬depth < nestingLimit) :
      Reads depth .unary stream (.error ⟨stream.current.column, .tooDeep⟩)
  | signedFault {depth : Nat} {stream : TokenStream} {operator : UnaryOperator}
      {fault : Located SyntaxFault}
      (isSign : prefixAt stream = some operator)
      (room : depth < nestingLimit)
      (operandRead : Reads (depth + 1) .unary stream.advance (.error fault)) :
      Reads depth .unary stream (.error fault)
  | signed {depth : Nat} {stream rest : TokenStream} {operator : UnaryOperator}
      {operand : Measured}
      (isSign : prefixAt stream = some operator)
      (room : depth < nestingLimit)
      (operandRead : Reads (depth + 1) .unary stream.advance (.ok (operand, rest)))
      (low : (Measured.unary operator operand stream.current.column).height ≤ nestingLimit) :
      Reads depth .unary stream (.ok (.unary operator operand stream.current.column, rest))
  | signedTooHigh {depth : Nat} {stream rest : TokenStream} {operator : UnaryOperator}
      {operand : Measured}
      (isSign : prefixAt stream = some operator)
      (room : depth < nestingLimit)
      (operandRead : Reads (depth + 1) .unary stream.advance (.ok (operand, rest)))
      (high : ¬(Measured.unary operator operand stream.current.column).height ≤ nestingLimit) :
      Reads depth .unary stream (.error ⟨stream.current.column, .tooDeep⟩)
  | operandFault {depth : Nat} {stream : TokenStream} {fault : Located SyntaxFault}
      (operandRead : Reads depth .operand stream (.error fault)) :
      Reads depth .postfixed stream (.error fault)
  | postfixed {depth : Nat} {stream middle : TokenStream} {inner : Measured}
      {outcome : ReadOutcome}
      (operandRead : Reads depth .operand stream (.ok (inner, middle)))
      (tailRead : Reads depth (.postfixTail inner) middle outcome) :
      Reads depth .postfixed stream outcome
  | noMark {depth : Nat} {stream : TokenStream} {inner : Measured}
      (elsewhere : stream.atSymbol .bangBang = false) :
      Reads depth (.postfixTail inner) stream (.ok (inner, stream))
  | mark {depth : Nat} {stream : TokenStream} {inner : Measured} {outcome : ReadOutcome}
      (isMark : stream.atSymbol .bangBang = true)
      (low : (Measured.unary .nonNull inner stream.current.column).height ≤ nestingLimit)
      (tailRead : Reads depth (.postfixTail (.unary .nonNull inner stream.current.column))
        stream.advance outcome) :
      Reads depth (.postfixTail inner) stream outcome
  | markTooHigh {depth : Nat} {stream : TokenStream} {inner : Measured}
      (isMark : stream.atSymbol .bangBang = true)
      (high : ¬(Measured.unary .nonNull inner stream.current.column).height ≤ nestingLimit) :
      Reads depth (.postfixTail inner) stream (.error ⟨stream.current.column, .tooDeep⟩)
  | leaf {depth : Nat} {stream : TokenStream} {tree : Tree}
      (isLeaf : leaf? stream.current.kind = some tree) :
      Reads depth .operand stream (.ok (⟨tree, 1⟩, stream.advance))
  | innerFault {depth : Nat} {stream : TokenStream} {fault : Located SyntaxFault}
      (isOpening : stream.atSymbol .leftParen = true)
      (innerRead : Reads depth .conditional stream.advance (.error fault)) :
      Reads depth .operand stream (.error fault)
  | noClosing {depth : Nat} {stream rest : TokenStream} {inner : Measured}
      (isOpening : stream.atSymbol .leftParen = true)
      (innerRead : Reads depth .conditional stream.advance (.ok (inner, rest)))
      (elsewhere : rest.atSymbol .rightParen = false) :
      Reads depth .operand stream (.error ⟨rest.current.column, .expectedClosing⟩)
  | parenthesized {depth : Nat} {stream atClosing : TokenStream} {inner : Measured}
      (isOpening : stream.atSymbol .leftParen = true)
      (innerRead : Reads depth .conditional stream.advance (.ok (inner, atClosing)))
      (isClosing : atClosing.atSymbol .rightParen = true) :
      Reads depth .operand stream (.ok (inner, atClosing.advance))
  | noOperand {depth : Nat} {stream : TokenStream}
      (noLeaf : leaf? stream.current.kind = none)
      (elsewhere : stream.atSymbol .leftParen = false) :
      Reads depth .operand stream
        (.error ⟨stream.current.column, Parser.operandFault stream.current.kind⟩)

/-! ## Every outcome follows the rules -/

theorem reads_postfixTail (depth : Nat) (inner : Measured) (stream : TokenStream) :
    Reads depth (.postfixTail inner) stream ((Task.postfixTail inner).read depth stream) := by
  fun_induction Parser.postfixTail inner stream with
  | case1 inner stream isMark column low fault tailRead inductionHypothesis =>
    rw [Task.read, Parser.postfixTail]
    simp only [column] at tailRead inductionHypothesis
    simp only [Task.read, isMark, low, tailRead, Except.map, ↓reduceIte,
      ↓reduceDIte] at inductionHypothesis ⊢
    exact .mark isMark low inductionHypothesis
  | case2 inner stream isMark column low read shorter tailRead inductionHypothesis =>
    rw [Task.read, Parser.postfixTail]
    simp only [column] at tailRead inductionHypothesis
    simp only [Task.read, isMark, low, tailRead, Except.map, ↓reduceIte,
      ↓reduceDIte] at inductionHypothesis ⊢
    exact .mark isMark low inductionHypothesis
  | case3 inner stream isMark column high =>
    rw [Task.read, Parser.postfixTail]
    simp only [isMark, high, Except.map, ↓reduceIte, ↓reduceDIte]
    exact .markTooHigh isMark high
  | case4 inner stream elsewhere =>
    rw [Task.read, Parser.postfixTail]
    simp only [elsewhere, Except.map]
    exact .noMark (Bool.eq_false_iff.mpr elsewhere)

/-- What each function of the reader gives follows the rules. -/
theorem reads_functions :
    (∀ depth stream, Reads depth .conditional stream (Task.conditional.read depth stream)) ∧
    (∀ depth stream, Reads depth .conditionalBody stream (Task.conditionalBody.read depth stream)) ∧
    (∀ depth loosest stream,
      Reads depth (.binary loosest) stream ((Task.binary loosest).read depth stream)) ∧
    (∀ depth loosest left stream,
      Reads depth (.binaryTail loosest left) stream
        ((Task.binaryTail loosest left).read depth stream)) ∧
    (∀ depth stream, Reads depth .unary stream (Task.unary.read depth stream)) ∧
    (∀ depth stream, Reads depth .postfixed stream (Task.postfixed.read depth stream)) ∧
    (∀ depth stream, Reads depth .operand stream (Task.operand.read depth stream)) := by
  apply conditional.mutual_induct
    (fun depth stream =>
      Reads depth .conditional stream (Task.conditional.read depth stream))
    (fun depth stream =>
      Reads depth .conditionalBody stream (Task.conditionalBody.read depth stream))
    (fun depth loosest stream =>
      Reads depth (.binary loosest) stream ((Task.binary loosest).read depth stream))
    (fun depth loosest left stream =>
      Reads depth (.binaryTail loosest left) stream
        ((Task.binaryTail loosest left).read depth stream))
    (fun depth stream => Reads depth .unary stream (Task.unary.read depth stream))
    (fun depth stream =>
      Reads depth .postfixed stream (Task.postfixed.read depth stream))
    (fun depth stream => Reads depth .operand stream (Task.operand.read depth stream))
  -- A level is entered.
  case case1 =>
    intro depth stream room body
    simp only [Task.read, Parser.conditional, room, ↓reduceDIte] at body ⊢
    exact .enter room body
  case case2 =>
    intro depth stream full
    simp only [Task.read, Parser.conditional, full, ↓reduceDIte, faultAt, Except.map]
    exact .enterTooDeep full
  -- A condition, alone or with its two branches.
  case case3 =>
    intro depth stream fault conditionRead conditionRule
    simp only [Task.read, conditionalBody, conditionRead, Except.map] at conditionRule ⊢
    exact .conditionFault conditionRule
  case case4 =>
    intro depth stream condition atQuestion _ conditionRead isQuestion _ fault thenRead
      conditionRule thenRule
    simp only [Task.read, conditionalBody, conditionRead, isQuestion, thenRead, Except.map,
      ↓reduceIte] at conditionRule thenRule ⊢
    exact .thenFault conditionRule isQuestion thenRule
  case case5 =>
    intro depth stream condition atQuestion _ conditionRead isQuestion _ thenBranch atColon _
      thenRead isColon _ fault elseRead conditionRule thenRule elseRule
    simp only [Task.read, conditionalBody, conditionRead, isQuestion, thenRead, isColon, elseRead,
      Except.map, ↓reduceIte] at conditionRule thenRule elseRule ⊢
    exact .elseFault conditionRule isQuestion thenRule isColon elseRule
  case case6 =>
    intro depth stream condition atQuestion _ conditionRead isQuestion _ thenBranch atColon _
      thenRead isColon _ elseBranch rest _ elseRead height low conditionRule thenRule elseRule
    simp only [height] at low
    simp only [Task.read, conditionalBody, conditionRead, isQuestion, thenRead, isColon, elseRead,
      low, Except.map, ↓reduceIte] at conditionRule thenRule elseRule ⊢
    exact .choice conditionRule isQuestion thenRule isColon elseRule low
  case case7 =>
    intro depth stream condition atQuestion _ conditionRead isQuestion _ thenBranch atColon _
      thenRead isColon _ elseBranch rest _ elseRead height high conditionRule thenRule elseRule
    simp only [height] at high
    simp only [Task.read, conditionalBody, conditionRead, isQuestion, thenRead, isColon, elseRead,
      high, Except.map, ↓reduceIte] at conditionRule thenRule elseRule ⊢
    exact .choiceTooHigh conditionRule isQuestion thenRule isColon elseRule high
  case case8 =>
    intro depth stream condition atQuestion _ conditionRead isQuestion _ thenBranch rest _
      thenRead elsewhere conditionRule thenRule
    simp only [Task.read, conditionalBody, conditionRead, isQuestion, thenRead, elsewhere,
      faultAt, Except.map, ↓reduceIte] at conditionRule thenRule ⊢
    exact .noColon conditionRule isQuestion thenRule (Bool.eq_false_iff.mpr elsewhere)
  case case9 =>
    intro depth stream condition rest _ conditionRead elsewhere conditionRule
    simp only [Task.read, conditionalBody, conditionRead, elsewhere, Except.map] at conditionRule ⊢
    exact .noQuestion conditionRule (Bool.eq_false_iff.mpr elsewhere)
  -- An operand and the loop of operators behind it.
  case case10 =>
    intro depth loosest stream fault leftRead leftRule
    simp only [Task.read, Parser.binary, leftRead, Except.map] at leftRule ⊢
    exact .leftFault leftRule
  case case11 =>
    intro depth loosest stream left middle _ leftRead fault tailRead leftRule tailRule
    simp only [Task.read, Parser.binary, leftRead, tailRead, Except.map] at leftRule tailRule ⊢
    exact .operands leftRule tailRule
  case case12 =>
    intro depth loosest stream left middle _ leftRead read _ tailRead leftRule tailRule
    simp only [Task.read, Parser.binary, leftRead, tailRead, Except.map] at leftRule tailRule ⊢
    exact .operands leftRule tailRule
  -- One turn of that loop.
  case case13 =>
    intro depth loosest left stream noOperator
    simp only [Task.read, binaryTail, noOperator, Except.map]
    exact .stop fun operator isOperator => by rw [noOperator] at isOperator; cases isOperator
  case case14 =>
    intro depth loosest left stream operator isOperator tight fault rightRead rightRule
    simp only [Task.read, binaryTail, isOperator, tight, rightRead, Except.map,
      ↓reduceIte] at rightRule ⊢
    exact .rightFault isOperator tight rightRule
  case case15 =>
    intro depth loosest left stream operator isOperator tight column right middle _ rightRead low
      fault tailRead rightRule tailRule
    simp only [column] at tailRead tailRule
    simp only [Task.read, binaryTail, isOperator, tight, rightRead, low, tailRead, Except.map,
      ↓reduceIte, ↓reduceDIte] at rightRule tailRule ⊢
    exact .operation isOperator tight rightRule low tailRule
  case case16 =>
    intro depth loosest left stream operator isOperator tight column right middle _ rightRead low
      read _ tailRead rightRule tailRule
    simp only [column] at tailRead tailRule
    simp only [Task.read, binaryTail, isOperator, tight, rightRead, low, tailRead, Except.map,
      ↓reduceIte, ↓reduceDIte] at rightRule tailRule ⊢
    exact .operation isOperator tight rightRule low tailRule
  case case17 =>
    intro depth loosest left stream operator isOperator tight right middle _ rightRead high
      rightRule
    simp only [Task.read, binaryTail, isOperator, tight, rightRead, high, Except.map,
      ↓reduceIte, ↓reduceDIte] at rightRule ⊢
    exact .operationTooHigh isOperator tight rightRule high
  case case18 =>
    intro depth loosest left stream operator isOperator loose
    simp only [Task.read, binaryTail, isOperator, loose, Except.map, ↓reduceIte]
    refine .stop fun other isOther => ?_
    rw [isOperator] at isOther
    cases isOther
    exact Nat.lt_of_not_le loose
  -- An operand with or without a sign.
  case case19 =>
    intro depth stream noSign inner
    simp only [Task.read, Parser.unary, noSign] at inner ⊢
    exact .unsigned noSign inner
  case case20 =>
    intro depth stream operator isSign room fault operandRead operandRule
    rw [Task.read, Parser.unary]
    simp only [Task.read, isSign, room, operandRead, Except.map, ↓reduceDIte] at operandRule ⊢
    exact .signedFault isSign room operandRule
  case case21 =>
    intro depth stream operator isSign room operand rest _ operandRead low operandRule
    rw [Task.read, Parser.unary]
    simp only [Task.read, isSign, room, operandRead, low, Except.map, ↓reduceIte,
      ↓reduceDIte] at operandRule ⊢
    exact .signed isSign room operandRule low
  case case22 =>
    intro depth stream operator isSign room operand rest _ operandRead high operandRule
    rw [Task.read, Parser.unary]
    simp only [Task.read, isSign, room, operandRead, high, Except.map, ↓reduceIte,
      ↓reduceDIte] at operandRule ⊢
    exact .signedTooHigh isSign room operandRule high
  case case23 =>
    intro depth stream operator isSign full
    rw [Task.read, Parser.unary]
    simp only [isSign, full, faultAt, Except.map, ↓reduceDIte]
    exact .signTooDeep isSign full
  -- An operand and the loop of assertions, which was dealt with above.
  case case24 =>
    intro depth stream fault operandRead operandRule
    simp only [Task.read, Parser.postfixed, operandRead, Except.map] at operandRule ⊢
    exact .operandFault operandRule
  case case25 =>
    intro depth stream inner middle _ operandRead fault tailRead operandRule
    simp only [Task.read, Parser.postfixed, operandRead, tailRead, Except.map] at operandRule ⊢
    have tailRule := reads_postfixTail depth inner middle
    simp only [Task.read, tailRead, Except.map] at tailRule
    exact .postfixed operandRule tailRule
  case case26 =>
    intro depth stream inner middle _ operandRead read _ tailRead operandRule
    simp only [Task.read, Parser.postfixed, operandRead, tailRead, Except.map] at operandRule ⊢
    have tailRule := reads_postfixTail depth inner middle
    simp only [Task.read, tailRead, Except.map] at tailRule
    exact .postfixed operandRule tailRule
  -- A literal or a parenthesis.
  case case27 =>
    intro depth stream tree isLeaf
    rw [Task.read, Parser.operand]
    split
    · rename_i other isOther
      rw [isLeaf] at isOther
      cases isOther
      exact .leaf isLeaf
    · rename_i noLeaf
      rw [isLeaf] at noLeaf
      cases noLeaf
  case case28 =>
    intro depth stream noLeaf isOpening fault innerRead innerRule
    rw [Task.read, Parser.operand]
    simp only [Task.read, noLeaf, isOpening, innerRead, Except.map, ↓reduceIte] at innerRule ⊢
    exact .innerFault isOpening innerRule
  case case29 =>
    intro depth stream noLeaf isOpening inner atClosing _ innerRead isClosing innerRule
    rw [Task.read, Parser.operand]
    simp only [Task.read, noLeaf, isOpening, innerRead, isClosing, Except.map,
      ↓reduceIte] at innerRule ⊢
    exact .parenthesized isOpening innerRule isClosing
  case case30 =>
    intro depth stream noLeaf isOpening inner rest _ innerRead elsewhere innerRule
    rw [Task.read, Parser.operand]
    simp only [Task.read, noLeaf, isOpening, innerRead, elsewhere, faultAt, Except.map,
      ↓reduceIte] at innerRule ⊢
    exact .noClosing isOpening innerRule (Bool.eq_false_iff.mpr elsewhere)
  case case31 =>
    intro depth stream noLeaf elsewhere
    rw [Task.read, Parser.operand]
    simp only [noLeaf, elsewhere, faultAt, Except.map]
    exact .noOperand noLeaf (Bool.eq_false_iff.mpr elsewhere)

/-- The relation holds of what the reader gives. From here on, induction on the relation replaces
unfolding the reader. -/
theorem reads_read (depth : Nat) (task : Task) (stream : TokenStream) :
    Reads depth task stream (task.read depth stream) := by
  obtain ⟨conditional, conditionalBody, binary, binaryTail, unary, postfixed, operand⟩ :=
    reads_functions
  cases task with
  | conditional => exact conditional depth stream
  | conditionalBody => exact conditionalBody depth stream
  | binary loosest => exact binary depth loosest stream
  | binaryTail loosest left => exact binaryTail depth loosest left stream
  | unary => exact unary depth stream
  | postfixed => exact postfixed depth stream
  | postfixTail inner => exact reads_postfixTail depth inner stream
  | operand => exact operand depth stream

/-! ## Nothing else follows the rules -/

section Subtypes

variable {Fault Value : Type} {property : Value → Prop} {result : Except Fault (Subtype property)}

/-- The reader carries a bound on what is left with its result, which a statement about the result
has to forget. -/
theorem exists_eq_ok_of_map_val {value : Value} (mapped : result.map Subtype.val = .ok value) :
    ∃ holds : property value, result = .ok ⟨value, holds⟩ := by
  cases result with
  | error fault => cases mapped
  | ok found =>
    cases mapped
    exact ⟨found.property, rfl⟩

theorem eq_error_of_map_val {fault : Fault} (mapped : result.map Subtype.val = .error fault) :
    result = .error fault := by
  cases result with
  | error found =>
    cases mapped
    rfl
  | ok found => cases mapped

end Subtypes

theorem leaf?_eq_none_of_atSymbol {stream : TokenStream} {symbol : Symbol}
    (isSymbol : stream.atSymbol symbol = true) : leaf? stream.current.kind = none := by
  rw [TokenStream.atSymbol, beq_iff_eq] at isSymbol
  rw [isSymbol]
  rfl

/-- What follows the rules is the outcome of the task. -/
theorem read_eq_of_reads {depth : Nat} {task : Task} {stream : TokenStream}
    {outcome : ReadOutcome} (reads : Reads depth task stream outcome) :
    task.read depth stream = outcome := by
  induction reads with
  | enter room _ body => rw [← body, Task.read, Parser.conditional, dif_pos room]; rfl
  | enterTooDeep full => rw [Task.read, Parser.conditional, dif_neg full]; rfl
  | conditionFault _ conditionRead =>
    rw [Task.read, Parser.conditionalBody, eq_error_of_map_val conditionRead]
    rfl
  | noQuestion _ elsewhere conditionRead =>
    obtain ⟨_, conditionRead⟩ := exists_eq_ok_of_map_val conditionRead
    simp only [Task.read, Parser.conditionalBody, conditionRead, elsewhere]
    rfl
  | thenFault _ isQuestion _ conditionRead thenRead =>
    obtain ⟨_, conditionRead⟩ := exists_eq_ok_of_map_val conditionRead
    have thenRead := eq_error_of_map_val thenRead
    simp only [Task.read, Parser.conditionalBody, conditionRead, isQuestion, thenRead]
    rfl
  | noColon _ isQuestion _ elsewhere conditionRead thenRead =>
    obtain ⟨_, conditionRead⟩ := exists_eq_ok_of_map_val conditionRead
    obtain ⟨_, thenRead⟩ := exists_eq_ok_of_map_val thenRead
    simp only [Task.read, Parser.conditionalBody, conditionRead, isQuestion, thenRead, elsewhere]
    rfl
  | elseFault _ isQuestion _ isColon _ conditionRead thenRead elseRead =>
    obtain ⟨_, conditionRead⟩ := exists_eq_ok_of_map_val conditionRead
    obtain ⟨_, thenRead⟩ := exists_eq_ok_of_map_val thenRead
    have elseRead := eq_error_of_map_val elseRead
    simp only [Task.read, Parser.conditionalBody, conditionRead, isQuestion, thenRead, isColon,
      elseRead]
    rfl
  | choice _ isQuestion _ isColon _ low conditionRead thenRead elseRead =>
    obtain ⟨_, conditionRead⟩ := exists_eq_ok_of_map_val conditionRead
    obtain ⟨_, thenRead⟩ := exists_eq_ok_of_map_val thenRead
    obtain ⟨_, elseRead⟩ := exists_eq_ok_of_map_val elseRead
    simp only [Measured.conditional] at low
    simp only [Task.read, Parser.conditionalBody, conditionRead, isQuestion, thenRead, isColon,
      elseRead, low, ↓reduceIte]
    rfl
  | choiceTooHigh _ isQuestion _ isColon _ high conditionRead thenRead elseRead =>
    obtain ⟨_, conditionRead⟩ := exists_eq_ok_of_map_val conditionRead
    obtain ⟨_, thenRead⟩ := exists_eq_ok_of_map_val thenRead
    obtain ⟨_, elseRead⟩ := exists_eq_ok_of_map_val elseRead
    simp only [Measured.conditional] at high
    simp only [Task.read, Parser.conditionalBody, conditionRead, isQuestion, thenRead, isColon,
      elseRead, high, ↓reduceIte]
    rfl
  | leftFault _ leftRead =>
    rw [Task.read, Parser.binary, eq_error_of_map_val leftRead]
    rfl
  | operands _ _ leftRead tailRead =>
    obtain ⟨_, leftRead⟩ := exists_eq_ok_of_map_val leftRead
    rw [← tailRead]
    simp only [Task.read, Parser.binary, leftRead]
    split
    all_goals rename_i tailShape
    all_goals rw [tailShape]
    all_goals rfl
  | @stop depth loosest stream left stops =>
    rw [Task.read, Parser.binaryTail]
    split
    · rfl
    · rename_i operator isOperator
      rw [if_neg (Nat.not_le_of_lt (stops operator isOperator))]
      rfl
  | rightFault isOperator tight _ rightRead =>
    have rightRead := eq_error_of_map_val rightRead
    simp only [Task.read, Parser.binaryTail, isOperator, tight, rightRead, ↓reduceIte]
    rfl
  | operation isOperator tight _ low _ rightRead tailRead =>
    obtain ⟨_, rightRead⟩ := exists_eq_ok_of_map_val rightRead
    rw [← tailRead, Task.read, Parser.binaryTail]
    simp only [Measured.binary] at low
    simp only [isOperator, tight, rightRead, low, ↓reduceIte, ↓reduceDIte]
    split
    all_goals rename_i tailShape
    all_goals simp only [Task.read, Measured.binary, tailShape]
    all_goals rfl
  | operationTooHigh isOperator tight _ high rightRead =>
    obtain ⟨_, rightRead⟩ := exists_eq_ok_of_map_val rightRead
    simp only [Measured.binary] at high
    simp only [Task.read, Parser.binaryTail, isOperator, tight, rightRead, high, ↓reduceIte,
      ↓reduceDIte]
    rfl
  | unsigned noSign _ inner =>
    rw [← inner, Task.read, Parser.unary]
    simp only [noSign]
    rfl
  | signTooDeep isSign full =>
    rw [Task.read, Parser.unary]
    simp only [isSign, full, ↓reduceDIte]
    rfl
  | signedFault isSign room _ operandRead =>
    have operandRead := eq_error_of_map_val operandRead
    rw [Task.read, Parser.unary]
    simp only [isSign, room, operandRead, ↓reduceDIte]
    rfl
  | signed isSign room _ low operandRead =>
    obtain ⟨_, operandRead⟩ := exists_eq_ok_of_map_val operandRead
    simp only [Measured.unary] at low
    rw [Task.read, Parser.unary]
    simp only [isSign, room, operandRead, low, ↓reduceIte, ↓reduceDIte]
    rfl
  | signedTooHigh isSign room _ high operandRead =>
    obtain ⟨_, operandRead⟩ := exists_eq_ok_of_map_val operandRead
    simp only [Measured.unary] at high
    rw [Task.read, Parser.unary]
    simp only [isSign, room, operandRead, high, ↓reduceIte, ↓reduceDIte]
    rfl
  | operandFault _ operandRead =>
    rw [Task.read, Parser.postfixed, eq_error_of_map_val operandRead]
    rfl
  | postfixed _ _ operandRead tailRead =>
    obtain ⟨_, operandRead⟩ := exists_eq_ok_of_map_val operandRead
    rw [← tailRead]
    simp only [Task.read, Parser.postfixed, operandRead]
    split
    all_goals rename_i tailShape
    all_goals rw [tailShape]
    all_goals rfl
  | noMark elsewhere =>
    rw [Task.read, Parser.postfixTail]
    simp only [elsewhere]
    rfl
  | mark isMark low _ tailRead =>
    rw [← tailRead, Task.read, Parser.postfixTail]
    simp only [Measured.unary] at low
    simp only [isMark, low, ↓reduceIte, ↓reduceDIte]
    split
    all_goals rename_i tailShape
    all_goals simp only [Task.read, Measured.unary, tailShape]
    all_goals rfl
  | markTooHigh isMark high =>
    rw [Task.read, Parser.postfixTail]
    simp only [Measured.unary] at high
    simp only [isMark, high, ↓reduceIte, ↓reduceDIte]
    rfl
  | leaf isLeaf =>
    rw [Task.read, Parser.operand]
    split
    · rename_i other isOther
      rw [isLeaf] at isOther
      cases isOther
      rfl
    · rename_i noLeaf
      rw [isLeaf] at noLeaf
      cases noLeaf
  | innerFault isOpening _ innerRead =>
    have innerRead := eq_error_of_map_val innerRead
    rw [Task.read, Parser.operand]
    simp only [leaf?_eq_none_of_atSymbol isOpening, isOpening, innerRead]
    rfl
  | noClosing isOpening _ elsewhere innerRead =>
    obtain ⟨_, innerRead⟩ := exists_eq_ok_of_map_val innerRead
    rw [Task.read, Parser.operand]
    simp only [leaf?_eq_none_of_atSymbol isOpening, isOpening, innerRead, elsewhere]
    rfl
  | parenthesized isOpening _ isClosing innerRead =>
    obtain ⟨_, innerRead⟩ := exists_eq_ok_of_map_val innerRead
    rw [Task.read, Parser.operand]
    simp only [leaf?_eq_none_of_atSymbol isOpening, isOpening, innerRead, isClosing]
    rfl
  | noOperand noLeaf elsewhere =>
    rw [Task.read, Parser.operand]
    simp only [noLeaf, elsewhere]
    rfl

end Parser

end CompilerFront.Expr
