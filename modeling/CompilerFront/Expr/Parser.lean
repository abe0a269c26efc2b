import CompilerFront.Expr.Fault
import CompilerFront.Expr.Tree

/-!
Contract: putting tokens together to an expression tree.

Owns:
- `Tree.ofTokens`, which reads one expression that spans a whole token stream;
- the limit on nesting and on the height of trees.

The functions below call each other without fuel. Each call lowers, in lexicographic order, the
number of tokens left, the levels of nesting still allowed, the rank of the function, or the height
that the operand on the left may still gain; the second and the last matter only at the last token,
where advancing stands still.
-/

namespace CompilerFront.Expr

/-- The greatest nesting of an expression and the greatest height of its tree. -/
def nestingLimit : Nat := 256

structure Measured where
  tree : Tree
  height : Nat
deriving DecidableEq, Repr

/-- A parsed expression and the stream behind it, which is no longer than the stream before. -/
abbrev Parsed (before : TokenStream) : Type :=
  { read : Measured × TokenStream // read.2.later.length ≤ before.later.length }

abbrev ParseResult (before : TokenStream) : Type :=
  Except (Located SyntaxFault) (Parsed before)

namespace Parser

def faultAt {Result : Type} (stream : TokenStream) (cause : SyntaxFault) :
    Except (Located SyntaxFault) Result :=
  .error ⟨stream.current.column, cause⟩

def operatorAt (stream : TokenStream) : Option BinaryOperator :=
  match stream.current.kind with
  | .symbol symbol => BinaryOperator.ofSymbol? symbol
  | _ => none

def prefixAt (stream : TokenStream) : Option UnaryOperator :=
  match stream.current.kind with
  | .symbol symbol => UnaryOperator.ofSymbol? symbol
  | _ => none

/-- The tree of a token that is an operand by itself. -/
def leaf? : TokenKind → Option Tree
  | .int number => some (.int number)
  | .string text => some (.string text)
  | .bool truth => some (.bool truth)
  | .null => some .null
  | .symbol _ => none
  | .endOfText => none

def operandFault : TokenKind → SyntaxFault
  | .endOfText => .unexpectedEnd
  | _ => .expectedExpression

/-- What postfix operators make of an operand on their left. -/
def postfixTail (inner : Measured) (stream : TokenStream) : ParseResult stream :=
  if stream.atSymbol .bangBang then
    let column := stream.current.column
    if _room : inner.height + 1 ≤ nestingLimit then
      match postfixTail ⟨.unary .nonNull inner.tree column, inner.height + 1⟩ stream.advance with
      | .error fault => .error fault
      | .ok ⟨read, shorter⟩ => .ok ⟨read, Nat.le_trans shorter stream.length_later_advance⟩
    else
      .error ⟨column, .tooDeep⟩
  else
    .ok ⟨(inner, stream), Nat.le_refl _⟩
termination_by (stream.later.length, nestingLimit - inner.height)
decreasing_by
  have := stream.length_later_advance
  simp only [Prod.lex_def]
  omega

mutual

/-- An expression on a level of its own. -/
def conditional (depth : Nat) (stream : TokenStream) : ParseResult stream :=
  if _room : depth < nestingLimit then
    conditionalBody (depth + 1) stream
  else
    faultAt stream .tooDeep
termination_by (stream.later.length, nestingLimit - depth, 0, 0)
decreasing_by all_goals exact Prod.Lex.right _ (Prod.Lex.left _ _ (by omega))

/-- An expression on a level already counted: a condition with two branches, or one operand. -/
def conditionalBody (depth : Nat) (stream : TokenStream) : ParseResult stream :=
  match binary depth 0 stream with
  | .error fault => .error fault
  | .ok ⟨(condition, atQuestion), shorter⟩ =>
    if atQuestion.atSymbol .question then
      let column := atQuestion.current.column
      have afterQuestion := Nat.le_trans atQuestion.length_later_advance shorter
      match conditional depth atQuestion.advance with
      | .error fault => .error fault
      | .ok ⟨(thenBranch, atColon), shorterThen⟩ =>
        if atColon.atSymbol .colon then
          have afterColon :=
            Nat.le_trans atColon.length_later_advance (Nat.le_trans shorterThen afterQuestion)
          match conditional depth atColon.advance with
          | .error fault => .error fault
          | .ok ⟨(elseBranch, rest), shorterElse⟩ =>
            let height := max (max condition.height thenBranch.height) elseBranch.height
            if height + 1 ≤ nestingLimit then
              .ok ⟨(⟨.conditional condition.tree thenBranch.tree elseBranch.tree column,
                  height + 1⟩, rest), Nat.le_trans shorterElse afterColon⟩
            else
              .error ⟨column, .tooDeep⟩
        else
          faultAt atColon .expectedColon
    else
      .ok ⟨(condition, atQuestion), shorter⟩
termination_by (stream.later.length, nestingLimit - depth, 40, 0)
decreasing_by
  all_goals simp only [Prod.lex_def, true_and]
  all_goals omega

/-- Operands joined by binary operators of a precedence or a tighter one. -/
def binary (depth loosest : Nat) (stream : TokenStream) : ParseResult stream :=
  match unary depth stream with
  | .error fault => .error fault
  | .ok ⟨(left, rest), shorter⟩ =>
    match binaryTail depth loosest left rest with
    | .error fault => .error fault
    | .ok ⟨read, shorterTail⟩ => .ok ⟨read, Nat.le_trans shorterTail shorter⟩
termination_by (stream.later.length, nestingLimit - depth, 2 * (12 - loosest) + 10, 0)
decreasing_by
  · simp only [Prod.lex_def, true_and]
    omega
  · dsimp only at shorter
    simp only [Prod.lex_def, true_and]
    omega

/-- What binary operators make of an operand on their left. -/
def binaryTail (depth loosest : Nat) (left : Measured) (stream : TokenStream) :
    ParseResult stream :=
  match operatorAt stream with
  | none => .ok ⟨(left, stream), Nat.le_refl _⟩
  | some operator =>
    if loosest ≤ operator.precedence then
      let column := stream.current.column
      match binary depth (operator.precedence + 1) stream.advance with
      | .error fault => .error fault
      | .ok ⟨(right, rest), shorter⟩ =>
        if _room : max left.height right.height + 1 ≤ nestingLimit then
          match binaryTail depth loosest
              ⟨.binary operator left.tree right.tree column, max left.height right.height + 1⟩
              rest with
          | .error fault => .error fault
          | .ok ⟨read, shorterTail⟩ =>
            .ok ⟨read, Nat.le_trans shorterTail (Nat.le_trans shorter stream.length_later_advance)⟩
        else
          .error ⟨column, .tooDeep⟩
    else
      .ok ⟨(left, stream), Nat.le_refl _⟩
termination_by
  (stream.later.length, nestingLimit - depth, 2 * (12 - loosest) + 9, nestingLimit - left.height)
decreasing_by
  · have := stream.length_later_advance
    have := BinaryOperator.precedence_le operator
    simp only [Prod.lex_def, true_and]
    omega
  · have := stream.length_later_advance
    dsimp only at shorter
    simp only [Prod.lex_def, true_and]
    omega

/-- An operand with the prefix operators before it. -/
def unary (depth : Nat) (stream : TokenStream) : ParseResult stream :=
  match prefixAt stream with
  | none => postfixed depth stream
  | some operator =>
    if _room : depth < nestingLimit then
      let column := stream.current.column
      match unary (depth + 1) stream.advance with
      | .error fault => .error fault
      | .ok ⟨(operand, rest), shorter⟩ =>
        if operand.height + 1 ≤ nestingLimit then
          .ok ⟨(⟨.unary operator operand.tree column, operand.height + 1⟩, rest),
            Nat.le_trans shorter stream.length_later_advance⟩
        else
          .error ⟨column, .tooDeep⟩
    else
      faultAt stream .tooDeep
termination_by (stream.later.length, nestingLimit - depth, 8, 0)
decreasing_by
  all_goals have := stream.length_later_advance
  all_goals simp only [Prod.lex_def, true_and]
  all_goals omega

def postfixed (depth : Nat) (stream : TokenStream) : ParseResult stream :=
  match operand depth stream with
  | .error fault => .error fault
  | .ok ⟨(inner, rest), shorter⟩ =>
    match postfixTail inner rest with
    | .error fault => .error fault
    | .ok ⟨read, shorterTail⟩ => .ok ⟨read, Nat.le_trans shorterTail shorter⟩
termination_by (stream.later.length, nestingLimit - depth, 7, 0)
decreasing_by
  all_goals simp only [Prod.lex_def, true_and]
  all_goals omega

def operand (depth : Nat) (stream : TokenStream) : ParseResult stream :=
  match leaf? stream.current.kind with
  | some tree => .ok ⟨(⟨tree, 1⟩, stream.advance), stream.length_later_advance⟩
  | none =>
    if stream.atSymbol .leftParen then
      match conditional depth stream.advance with
      | .error fault => .error fault
      | .ok ⟨(inner, atClosing), shorter⟩ =>
        if atClosing.atSymbol .rightParen then
          .ok ⟨(inner, atClosing.advance),
            Nat.le_trans atClosing.length_later_advance
              (Nat.le_trans shorter stream.length_later_advance)⟩
        else
          faultAt atClosing .expectedClosing
    else
      faultAt stream (operandFault stream.current.kind)
termination_by (stream.later.length, nestingLimit - depth, 5, 0)
decreasing_by
  all_goals have := stream.length_later_advance
  all_goals simp only [Prod.lex_def, true_and]
  all_goals omega

end

end Parser

/-- The tree of the one expression that a stream holds up to the end of the text. -/
def Tree.ofTokens (stream : TokenStream) : Except (Located SyntaxFault) Tree :=
  match Parser.conditional 0 stream with
  | .error fault => .error fault
  | .ok ⟨(read, rest), _⟩ =>
    if rest.current.kind = .endOfText then .ok read.tree
    else Parser.faultAt rest .expectedEnd

end CompilerFront.Expr
