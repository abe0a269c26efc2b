import CompilerFront.Expr.Parser

/-!
Contract: the grammar of constant expressions, as it is documented.

Owns:
- the table of binary operators by level, from `||` on level one to `*`, `/` and `%` on level ten,
  and the table of prefix operators;
- `Phrase`, the derivations of the grammar together with their trees.

Does not own: how a text is read. The grammar is stratified and left-recursive, and it knows no
limit on nesting; that the reader accepts exactly its phrases is shown in
`CompilerFront.Proofs.Grammar.Acceptance`.
-/

namespace CompilerFront.Expr.Grammar

/-! ## Tables -/

/-- The binary operators of a level with their symbols; a greater level binds tighter. -/
def operatorsOn : Nat → List (Symbol × BinaryOperator)
  | 1 => [(.pipePipe, .or)]
  | 2 => [(.ampAmp, .and)]
  | 3 => [(.pipe, .bitOr)]
  | 4 => [(.caret, .bitXor)]
  | 5 => [(.amp, .bitAnd)]
  | 6 => [(.equal, .equal), (.notEqual, .notEqual)]
  | 7 => [(.less, .less), (.lessEqual, .lessEqual), (.greater, .greater),
      (.greaterEqual, .greaterEqual)]
  | 8 => [(.shiftLeft, .shiftLeft), (.shiftRight, .shiftRight)]
  | 9 => [(.plus, .add), (.minus, .subtract)]
  | 10 => [(.star, .multiply), (.slash, .divide), (.percent, .modulo)]
  | _ => []

/-- The operators written before their operand, with their symbols. -/
def prefixOperators : List (Symbol × UnaryOperator) :=
  [(.minus, .negate), (.plus, .plus), (.bang, .not), (.tilde, .complement)]

/-- The table and the reader agree on which symbol is which binary operator, and on its level. -/
theorem mem_operatorsOn_iff {level : Nat} {symbol : Symbol} {operator : BinaryOperator} :
    (symbol, operator) ∈ operatorsOn level ↔
      BinaryOperator.ofSymbol? symbol = some operator ∧ operator.precedence = level := by
  constructor
  · intro member
    have table : ∀ entry ∈ operatorsOn level,
        BinaryOperator.ofSymbol? entry.1 = some entry.2 ∧ entry.2.precedence = level := by
      unfold operatorsOn
      split
      all_goals simp [BinaryOperator.ofSymbol?, BinaryOperator.precedence]
    exact table (symbol, operator) member
  · rintro ⟨found, rfl⟩
    obtain rfl := BinaryOperator.ofSymbol?_eq_some_iff.mp found
    cases operator <;> decide

/-- The table and the reader agree on which symbol is which prefix operator. -/
theorem mem_prefixOperators_iff {symbol : Symbol} {operator : UnaryOperator} :
    (symbol, operator) ∈ prefixOperators ↔ UnaryOperator.ofSymbol? symbol = some operator := by
  cases symbol <;> cases operator <;> decide

/-! ## Derivations -/

/-- The syntactic categories; `binary level` holds the operators of that level and tighter ones. -/
inductive Category where
  | conditional
  | binary (level : Nat)
  | unary
  | postfixed
  | primary
deriving DecidableEq, Repr

/-- `Phrase category tokens tree`: the tokens derive from the category, and `tree` is the tree of
the derivation. There is one constructor for each rule; parentheses leave no node. -/
inductive Phrase : Category → List Token → Tree → Prop where
  | unconditional {tokens : List Token} {tree : Tree}
      (inner : Phrase (.binary 1) tokens tree) :
      Phrase .conditional tokens tree
  | choice {before between after : List Token} {question colon : Token}
      {condition thenBranch elseBranch : Tree}
      (conditionPhrase : Phrase (.binary 1) before condition)
      (isQuestion : question.kind = .symbol .question)
      (thenPhrase : Phrase .conditional between thenBranch)
      (isColon : colon.kind = .symbol .colon)
      (elsePhrase : Phrase .conditional after elseBranch) :
      Phrase .conditional (before ++ question :: (between ++ colon :: after))
        (.conditional condition thenBranch elseBranch question.column)
  | tighter {level : Nat} {tokens : List Token} {tree : Tree}
      (positive : 1 ≤ level) (atMostTen : level ≤ 10)
      (inner : Phrase (.binary (level + 1)) tokens tree) :
      Phrase (.binary level) tokens tree
  | operation {level : Nat} {before after : List Token} {sign : Token} {symbol : Symbol}
      {operator : BinaryOperator} {left right : Tree}
      (leftPhrase : Phrase (.binary level) before left)
      (isSign : sign.kind = .symbol symbol)
      (member : (symbol, operator) ∈ operatorsOn level)
      (rightPhrase : Phrase (.binary (level + 1)) after right) :
      Phrase (.binary level) (before ++ sign :: after) (.binary operator left right sign.column)
  | tightest {tokens : List Token} {tree : Tree}
      (inner : Phrase .unary tokens tree) :
      Phrase (.binary 11) tokens tree
  | signed {tokens : List Token} {sign : Token} {symbol : Symbol} {operator : UnaryOperator}
      {tree : Tree}
      (isSign : sign.kind = .symbol symbol)
      (member : (symbol, operator) ∈ prefixOperators)
      (operandPhrase : Phrase .unary tokens tree) :
      Phrase .unary (sign :: tokens) (.unary operator tree sign.column)
  | unsigned {tokens : List Token} {tree : Tree}
      (inner : Phrase .postfixed tokens tree) :
      Phrase .unary tokens tree
  | asserted {tokens : List Token} {mark : Token} {tree : Tree}
      (operandPhrase : Phrase .postfixed tokens tree)
      (isMark : mark.kind = .symbol .bangBang) :
      Phrase .postfixed (tokens ++ [mark]) (.unary .nonNull tree mark.column)
  | bare {tokens : List Token} {tree : Tree}
      (inner : Phrase .primary tokens tree) :
      Phrase .postfixed tokens tree
  | int {token : Token} {number : Int128} (isInt : token.kind = .int number) :
      Phrase .primary [token] (.int number)
  | string {token : Token} {text : String} (isString : token.kind = .string text) :
      Phrase .primary [token] (.string text)
  | bool {token : Token} {truth : Bool} (isBool : token.kind = .bool truth) :
      Phrase .primary [token] (.bool truth)
  | null {token : Token} (isNull : token.kind = .null) :
      Phrase .primary [token] .null
  | parenthesized {tokens : List Token} {opening closing : Token} {tree : Tree}
      (isOpening : opening.kind = .symbol .leftParen)
      (inner : Phrase .conditional tokens tree)
      (isClosing : closing.kind = .symbol .rightParen) :
      Phrase .primary (opening :: (tokens ++ [closing])) tree

end CompilerFront.Expr.Grammar
