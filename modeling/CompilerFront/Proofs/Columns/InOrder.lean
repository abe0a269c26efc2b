import CompilerFront.Proofs.Evaluation.Demand
import CompilerFront.Proofs.Grammar.Phrase

/-!
Contract: a tree holds the tokens that it was read from, in their order.

Owns:
- `Mark`, what a node keeps of its token: the kind, and for an operator the column;
- `Tree.inOrder`, the marks of a tree in the order in which an expression is written, and `marks`,
  those of a row of tokens;
- `inOrder_of_phrase`, by which the two agree for every phrase of the grammar;
- where the nodes that evaluation asks for stand in this order.

Parentheses, colons and the end of the text have no node.
-/

namespace CompilerFront.Expr

/-! ## Marks -/

/-- What a node keeps of the token that it comes from. Operands keep no column. -/
structure Mark where
  kind : TokenKind
  column? : Option Nat
deriving DecidableEq, Repr

namespace Tree

def mark : Tree → Mark
  | .int number => ⟨.int number, none⟩
  | .bool truth => ⟨.bool truth, none⟩
  | .null => ⟨.null, none⟩
  | .string text => ⟨.string text, none⟩
  | .unary operator _ column => ⟨.symbol operator.symbol, some column⟩
  | .binary operator _ _ column => ⟨.symbol operator.symbol, some column⟩
  | .conditional _ _ _ column => ⟨.symbol .question, some column⟩

/-- The marks of all nodes as an expression is written: a prefix operator before its operand, the
assertion behind it, a binary operator between its operands, and the question mark between condition
and branch. -/
def inOrder : Tree → List Mark
  | .int number => [mark (.int number)]
  | .bool truth => [mark (.bool truth)]
  | .null => [mark .null]
  | .string text => [mark (.string text)]
  | .unary .nonNull operand column => operand.inOrder ++ [mark (.unary .nonNull operand column)]
  | .unary operator operand column => mark (.unary operator operand column) :: operand.inOrder
  | .binary operator left right column =>
    left.inOrder ++ mark (.binary operator left right column) :: right.inOrder
  | .conditional condition thenBranch elseBranch column =>
    condition.inOrder ++ mark (.conditional condition thenBranch elseBranch column) ::
      (thenBranch.inOrder ++ elseBranch.inOrder)

/-- A sign stands in front of its operand and is listed there; the assertion is listed behind it. -/
theorem inOrder_prefix {operator : UnaryOperator} (before : operator ≠ .nonNull) (operand : Tree)
    (column : Nat) :
    (unary operator operand column).inOrder =
      mark (.unary operator operand column) :: operand.inOrder := by
  cases operator with
  | nonNull => exact absurd rfl before
  | negate | plus | not | complement => rfl

end Tree

def TokenKind.hasNode : TokenKind → Bool
  | .symbol .leftParen | .symbol .rightParen | .symbol .colon | .endOfText => false
  | _ => true

theorem UnaryOperator.hasNode_symbol (operator : UnaryOperator) :
    (TokenKind.symbol operator.symbol).hasNode = true := by
  cases operator <;> rfl

theorem BinaryOperator.hasNode_symbol (operator : BinaryOperator) :
    (TokenKind.symbol operator.symbol).hasNode = true := by
  cases operator <;> rfl

def Token.mark (token : Token) : Mark :=
  match token.kind with
  | .symbol symbol => ⟨.symbol symbol, some token.column⟩
  | operand => ⟨operand, none⟩

/-- The marks of the tokens of a row that have a node. -/
def marks (tokens : List Token) : List Mark :=
  (tokens.filter fun token => token.kind.hasNode).map Token.mark

section Rows

variable {token : Token} {tokens : List Token}

@[simp] theorem marks_nil : marks [] = [] := rfl

@[simp] theorem marks_append (before after : List Token) :
    marks (before ++ after) = marks before ++ marks after := by
  simp only [marks, List.filter_append, List.map_append]

theorem marks_cons_of_hasNode (hasNode : token.kind.hasNode = true) :
    marks (token :: tokens) = token.mark :: marks tokens := by
  simp only [marks, List.filter_cons, hasNode, ↓reduceIte, List.map_cons]

theorem marks_cons_of_not_hasNode (noNode : token.kind.hasNode = false) :
    marks (token :: tokens) = marks tokens := by
  simp only [marks, List.filter_cons, noNode, Bool.false_eq_true, ↓reduceIte]

theorem mark_of_symbol {symbol : Symbol} (isSymbol : token.kind = .symbol symbol) :
    token.mark = ⟨.symbol symbol, some token.column⟩ := by
  simp only [Token.mark, isSymbol]

/-- Only the mark of a symbol has a column, and it is the column of the token. -/
theorem column_of_mark {column : Nat} (marked : token.mark.column? = some column) :
    token.column = column := by
  unfold Token.mark at marked
  split at marked
  · exact Option.some.inj marked
  · cases marked

end Rows

/-! ## Phrases -/

namespace Grammar

theorem symbol_of_mem_prefixOperators {symbol : Symbol} {operator : UnaryOperator}
    (member : (symbol, operator) ∈ prefixOperators) :
    operator.symbol = symbol ∧ operator ≠ .nonNull := by
  simp only [prefixOperators, List.mem_cons, Prod.mk.injEq, List.not_mem_nil, or_false] at member
  rcases member with ⟨rfl, rfl⟩ | ⟨rfl, rfl⟩ | ⟨rfl, rfl⟩ | ⟨rfl, rfl⟩ <;> decide

/-- The tree of a derivation holds the tokens of the phrase in their order. -/
theorem inOrder_of_phrase {category : Category} {tokens : List Token} {tree : Tree}
    (phrase : Phrase category tokens tree) : tree.inOrder = marks tokens := by
  induction phrase with
  | unconditional _ inner | tighter _ _ _ inner | tightest _ inner | unsigned _ inner
  | bare _ inner => exact inner
  | @choice before between after question colon _ _ _ _ isQuestion _ isColon _ condition thenBranch
      elseBranch =>
    have questionNode : question.kind.hasNode = true := by rw [isQuestion]; rfl
    have colonNode : colon.kind.hasNode = false := by rw [isColon]; rfl
    simp only [Tree.inOrder, Tree.mark, marks_append, marks_cons_of_hasNode questionNode,
      marks_cons_of_not_hasNode colonNode, mark_of_symbol isQuestion, condition, thenBranch,
      elseBranch]
  | @operation level before after sign symbol operator _ _ _ isSign member _ left right =>
    obtain ⟨found, -⟩ := mem_operatorsOn_iff.mp member
    obtain rfl := BinaryOperator.ofSymbol?_eq_some_iff.mp found
    have signNode : sign.kind.hasNode = true := by rw [isSign, operator.hasNode_symbol]
    simp only [Tree.inOrder, Tree.mark, marks_append, marks_cons_of_hasNode signNode,
      mark_of_symbol isSign, left, right]
  | @signed tokens sign symbol operator tree isSign member _ operand =>
    obtain ⟨rfl, before⟩ := symbol_of_mem_prefixOperators member
    have signNode : sign.kind.hasNode = true := by rw [isSign, operator.hasNode_symbol]
    rw [Tree.inOrder_prefix before, marks_cons_of_hasNode signNode, mark_of_symbol isSign, operand,
      Tree.mark]
  | @asserted tokens mark tree _ isMark operand =>
    have markNode : mark.kind.hasNode = true := by rw [isMark]; rfl
    simp only [Tree.inOrder, Tree.mark, marks_append, marks_cons_of_hasNode markNode, marks_nil,
      mark_of_symbol isMark, operand, UnaryOperator.symbol]
  | int isKind | string isKind | bool isKind | null isKind =>
    rw [marks_cons_of_hasNode (by rw [isKind]; rfl), marks_nil, Token.mark, isKind]
    rfl
  | @parenthesized tokens opening closing tree isOpening _ isClosing inner =>
    have openingNode : opening.kind.hasNode = false := by rw [isOpening]; rfl
    have closingNode : closing.kind.hasNode = false := by rw [isClosing]; rfl
    rw [marks_cons_of_not_hasNode openingNode, marks_append, marks_cons_of_not_hasNode closingNode,
      marks_nil, List.append_nil, inner]

end Grammar

/-! ## Nodes of a tree -/

/-- A node that evaluation demands is a node of the tree, so its mark is among those of the text. -/
theorem inOrder_subset_of_demandedChild {parent child : Tree} {index : Nat}
    (demanded : DemandedChild parent index child) : child.inOrder ⊆ parent.inOrder := by
  cases demanded with
  | @operand operator _ _ => cases operator <;> simp [Tree.inOrder]
  | left | right | rightIfOpen | condition | thenBranch | elseBranch =>
    intro mark member
    simp [Tree.inOrder, member]

theorem mark_mem_inOrder (tree : Tree) : tree.mark ∈ tree.inOrder := by
  cases tree with
  | unary operator _ _ => cases operator <;> simp [Tree.inOrder]
  | int | bool | null | string | binary | conditional => simp [Tree.inOrder]

/-- The node at a demanded place is listed. -/
theorem mark_mem_of_demanded {tree node : Tree} {place : List Nat}
    (demanded : Demanded tree place node) : node.mark ∈ tree.inOrder := by
  suffices listed : node.inOrder ⊆ tree.inOrder from listed (mark_mem_inOrder node)
  induction demanded with
  | root => exact List.Subset.refl _
  | child _ childDemanded inductionHypothesis =>
    exact List.Subset.trans (inOrder_subset_of_demandedChild childDemanded) inductionHypothesis

/-- A node that fails by itself reports its own column. -/
theorem column_of_rejects {node : Tree} {fault : Located ComputationFault}
    (rejects : Rejects node fault) : node.mark.column? = some fault.column := by
  cases rejects <;> rfl

end CompilerFront.Expr
