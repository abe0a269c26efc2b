import CompilerFront.Proofs.Grammar.Phrase
import CompilerFront.Proofs.Writing.Expression

/-!
Contract: every phrase of the grammar is the tokens of an expression that is written down.

Owns:
- `Category.tightness`, how tightly an expression of a category binds at least;
- `Derives`, by which a written expression has the tokens and the tree of a derivation;
- `exists_derives`: there is one for every derivation, with its parentheses;
- `Written.constructs`, the levels of all constructs in a written expression.
-/

namespace CompilerFront.Expr

open Grammar (Category Phrase mem_operatorsOn_iff mem_prefixOperators_iff)

/-- How tightly the phrases of a category bind at least. -/
def Grammar.Category.tightness : Category → Nat
  | .conditional => 0
  | .binary level => level
  | .unary => 11
  | .postfixed => 12
  | .primary => 13

/-- A written expression that has the tokens of a phrase, and its tree but for the columns. It keeps
the parentheses that the tree has lost, and so the levels they cost. -/
structure Derives (category : Category) (tokens : List Token) (tree : Tree) (written : Written) :
    Prop where
  placed : written.WellPlaced
  tight : category.tightness ≤ written.tightness
  kinds : written.kinds = tokens.map Token.kind
  tree : written.tree = tree.columnless

theorem signed_of_mem {symbol : Symbol} {operator : UnaryOperator}
    (member : (symbol, operator) ∈ Grammar.prefixOperators) :
    operator ≠ .nonNull ∧ operator.symbol = symbol := by
  have isOperator := mem_prefixOperators_iff.mp member
  cases symbol <;> cases isOperator <;> exact ⟨nofun, rfl⟩

section Derives

variable {tokens : List Token} {tree : Tree} {written : Written}

theorem Derives.loosen {category looser : Category} (derives : Derives category tokens tree written)
    (le : looser.tightness ≤ category.tightness) : Derives looser tokens tree written where
  placed := derives.placed
  tight := Nat.le_trans le derives.tight
  kinds := derives.kinds
  tree := derives.tree

theorem derives_literal {token : Token} (value : Value) (isLiteral : token.kind = value.literal) :
    Derives .primary [token] value.leaf (.literal value) where
  placed := trivial
  tight := Nat.le_refl 13
  kinds := by rw [List.map_singleton, isLiteral, Written.kinds]
  tree := by cases value <;> rfl

/-- Every phrase can be written down; by induction on its derivation. -/
theorem exists_derives {category : Category} (phrase : Phrase category tokens tree) :
    ∃ written, Derives category tokens tree written := by
  induction phrase with
  | unconditional _ inner =>
    obtain ⟨written, derives⟩ := inner
    exact ⟨written, derives.loosen (Nat.zero_le 1)⟩
  | choice _ isQuestion _ isColon _ conditionDerives thenDerives elseDerives =>
    obtain ⟨condition, conditionDerives⟩ := conditionDerives
    obtain ⟨thenBranch, thenDerives⟩ := thenDerives
    obtain ⟨elseBranch, elseDerives⟩ := elseDerives
    refine ⟨.conditional condition thenBranch elseBranch, ?_, Nat.zero_le _, ?_, ?_⟩
    · exact ⟨conditionDerives.tight, conditionDerives.placed, thenDerives.placed,
        elseDerives.placed⟩
    · simp only [Written.kinds, List.map_append, List.map_cons, conditionDerives.kinds,
        thenDerives.kinds, elseDerives.kinds, isQuestion, isColon]
    · simp only [Written.tree, conditionDerives.tree, thenDerives.tree, elseDerives.tree]
      rfl
  | tighter _ _ _ inner =>
    obtain ⟨written, derives⟩ := inner
    exact ⟨written, derives.loosen (Nat.le_succ _)⟩
  | @operation level _ _ _ symbol operator _ _ _ isSign member _ leftDerives rightDerives =>
    obtain ⟨left, leftDerives⟩ := leftDerives
    obtain ⟨right, rightDerives⟩ := rightDerives
    obtain ⟨isOperator, rfl⟩ := mem_operatorsOn_iff.mp member
    refine ⟨.binary operator left right, ?_, Nat.le_refl _, ?_, ?_⟩
    · exact ⟨leftDerives.tight, rightDerives.tight, leftDerives.placed, rightDerives.placed⟩
    · simp only [Written.kinds, List.map_append, List.map_cons, leftDerives.kinds,
        rightDerives.kinds, isSign, BinaryOperator.ofSymbol?_eq_some_iff.mp isOperator]
    · simp only [Written.tree, leftDerives.tree, rightDerives.tree]
      rfl
  | tightest _ inner =>
    obtain ⟨written, derives⟩ := inner
    exact ⟨written, derives.loosen (Nat.le_refl 11)⟩
  | @signed _ _ symbol operator _ isSign member _ operandDerives =>
    obtain ⟨operand, operandDerives⟩ := operandDerives
    obtain ⟨before, isSymbol⟩ := signed_of_mem member
    have tightness := UnaryOperator.tightness_signed before
    refine ⟨.unary operator operand, ?_, ?_, ?_, ?_⟩
    · exact ⟨by rw [tightness]; exact operandDerives.tight, operandDerives.placed⟩
    · exact Nat.le_of_eq tightness.symm
    · rw [Written.kinds_signed before, List.map_cons, operandDerives.kinds, isSign, isSymbol]
    · simp only [Written.tree, operandDerives.tree]
      rfl
  | unsigned _ inner =>
    obtain ⟨written, derives⟩ := inner
    exact ⟨written, derives.loosen (Nat.le_succ 11)⟩
  | asserted _ isMark operandDerives =>
    obtain ⟨operand, operandDerives⟩ := operandDerives
    refine ⟨.unary .nonNull operand, ⟨operandDerives.tight, operandDerives.placed⟩,
      Nat.le_refl 12, ?_, ?_⟩
    · simp only [Written.kinds, List.map_append, List.map_cons, List.map_nil,
        operandDerives.kinds, isMark]
    · simp only [Written.tree, operandDerives.tree]
      rfl
  | bare _ inner =>
    obtain ⟨written, derives⟩ := inner
    exact ⟨written, derives.loosen (Nat.le_succ 12)⟩
  | int isInt => exact ⟨_, derives_literal (.int _) isInt⟩
  | string isString => exact ⟨_, derives_literal (.string _) isString⟩
  | bool isBool => exact ⟨_, derives_literal (.bool _) isBool⟩
  | null isNull => exact ⟨_, derives_literal .null isNull⟩
  | parenthesized isOpening _ isClosing innerDerives =>
    obtain ⟨inner, innerDerives⟩ := innerDerives
    refine ⟨.parenthesized inner, innerDerives.placed, Nat.le_refl 13, ?_, innerDerives.tree⟩
    simp only [Written.kinds, List.map_append, List.map_cons, List.map_nil, innerDerives.kinds,
      isOpening, isClosing]

end Derives

/-! ## Constructs -/

namespace Written

/-- The levels of the constructs that open inside an expression, which occurs in a construct of a
level itself: what stands in parentheses, the branches of a conditional and the operand of a prefix
operator. -/
def opened (level : Nat) : Written → List Nat
  | literal _ => []
  | parenthesized inner => (level + 1) :: inner.opened (level + 1)
  | unary .nonNull operand => operand.opened level
  | unary _ operand => (level + 1) :: operand.opened (level + 1)
  | binary _ left right => left.opened level ++ right.opened level
  | conditional condition thenBranch elseBranch =>
    condition.opened level ++ (level + 1) :: thenBranch.opened (level + 1) ++
      (level + 1) :: elseBranch.opened (level + 1)

/-- The levels of all constructs of a whole expression, which has level one. -/
def constructs (written : Written) : List Nat := 1 :: written.opened 1

/-- A sign enters a level for its operand, as the parser does when it reads one. -/
theorem opened_signed {operator : UnaryOperator} (before : operator ≠ .nonNull) (level : Nat)
    (operand : Written) :
    (unary operator operand).opened level = (level + 1) :: operand.opened (level + 1) := by
  cases operator with
  | nonNull => exact absurd rfl before
  | negate | plus | not | complement => rfl

/-- All constructs are within a bound just when the most deeply nested one is. -/
theorem forall_opened_le_iff (bound level : Nat) (written : Written) :
    (∀ construct ∈ level :: written.opened level, construct ≤ bound) ↔
      level + written.levels ≤ bound + 1 := by
  induction written generalizing level with
  | literal value => simp [opened, levels]
  | parenthesized inner innerBound =>
    have positive := inner.levels_pos
    rw [opened, levels, List.forall_mem_cons, innerBound]
    omega
  | unary operator operand operandBound =>
    by_cases behind : operator = .nonNull
    · subst behind
      exact operandBound level
    · have positive := operand.levels_pos
      rw [opened_signed behind, levels_signed behind, List.forall_mem_cons, operandBound]
      omega
  | binary operator left right leftBound rightBound =>
    have leftBound := leftBound level
    have rightBound := rightBound level
    rw [List.forall_mem_cons] at leftBound rightBound
    rw [opened, levels, List.forall_mem_cons, List.forall_mem_append, and_and_left, leftBound,
      rightBound]
    omega
  | conditional condition thenBranch elseBranch conditionBound thenBound elseBound =>
    have positive := thenBranch.levels_pos
    have conditionBound := conditionBound level
    rw [List.forall_mem_cons] at conditionBound
    rw [opened, levels, List.forall_mem_cons, List.forall_mem_append, List.forall_mem_append,
      thenBound, elseBound, ← and_assoc, ← and_assoc, conditionBound]
    omega

end Written

end CompilerFront.Expr
