import CompilerFront.Proofs.Layout.Relocation
import CompilerFront.Proofs.Printing.Literals

/-!
Contract: expressions as they are written down, with their parentheses.

Owns:
- `Written`, an expression with its parentheses, its tree and its tokens, and `levels`, how deeply
  its constructs are nested;
- `WellPlaced`, by which parentheses stand wherever the precedence of operators asks for them;
- `Tree.written`, a tree with parentheses there and nowhere else;
- `Adds`, by which more parentheses are put around complete expressions.

Does not own: how tokens are spelled (`CompilerFront.Proofs.Writing.Text`) and read
(`CompilerFront.Proofs.Writing.Reading`).
-/

namespace CompilerFront.Expr

def Value.leaf : Value → Tree
  | .int number => .int number
  | .bool truth => .bool truth
  | .null => .null
  | .string text => .string text

def Tree.Unsigned : Tree → Prop
  | .int number => 0 ≤ number.toInt
  | .bool _ | .null | .string _ => True
  | .unary _ operand _ => operand.Unsigned
  | .binary _ left right _ => left.Unsigned ∧ right.Unsigned
  | .conditional condition thenBranch elseBranch _ =>
    condition.Unsigned ∧ thenBranch.Unsigned ∧ elseBranch.Unsigned

theorem unsigned_relocate {tree : Tree} (move : Nat → Nat) (unsigned : tree.Unsigned) :
    (tree.relocate move).Unsigned := by
  induction tree with
  | int | bool | null | string => exact unsigned
  | unary _ _ _ operand => exact operand unsigned
  | binary _ _ _ _ left right => exact ⟨left unsigned.1, right unsigned.2⟩
  | conditional _ _ _ _ condition thenBranch elseBranch =>
    exact ⟨condition unsigned.1, thenBranch unsigned.2.1, elseBranch unsigned.2.2⟩

/-- How tightly a unary operator binds: more tightly than all binary ones, and `!!` more tightly
than those before their operand. -/
def UnaryOperator.tightness : UnaryOperator → Nat
  | .nonNull => 12
  | .negate | .plus | .not | .complement => 11

/-! ## Written expressions -/

inductive Written where
  | literal (value : Value)
  | parenthesized (inner : Written)
  | unary (operator : UnaryOperator) (operand : Written)
  | binary (operator : BinaryOperator) (left right : Written)
  | conditional (condition thenBranch elseBranch : Written)
deriving DecidableEq, Repr

namespace Written

/-- The tree that is meant, with column zero at all operators; parentheses leave no node. -/
def tree : Written → Tree
  | literal value => value.leaf
  | parenthesized inner => inner.tree
  | unary operator operand => .unary operator operand.tree 0
  | binary operator left right => .binary operator left.tree right.tree 0
  | conditional condition thenBranch elseBranch =>
    .conditional condition.tree thenBranch.tree elseBranch.tree 0

/-- The tokens of an expression, in order; `!!` stands behind its operand. -/
def kinds : Written → List TokenKind
  | literal value => [value.literal]
  | parenthesized inner => .symbol .leftParen :: (inner.kinds ++ [.symbol .rightParen])
  | unary .nonNull operand => operand.kinds ++ [.symbol .bangBang]
  | unary operator operand => .symbol operator.symbol :: operand.kinds
  | binary operator left right => left.kinds ++ .symbol operator.symbol :: right.kinds
  | conditional condition thenBranch elseBranch =>
    condition.kinds ++ .symbol .question ::
      (thenBranch.kinds ++ .symbol .colon :: elseBranch.kinds)

/-- The level of the most deeply nested construct. The whole expression has level one; what stands
in parentheses, the branches of a conditional and the operand of a prefix operator have one level
more than the construct they occur in. -/
def levels : Written → Nat
  | literal _ => 1
  | parenthesized inner => inner.levels + 1
  | unary .nonNull operand => operand.levels
  | unary _ operand => operand.levels + 1
  | binary _ left right => max left.levels right.levels
  | conditional condition thenBranch elseBranch =>
    max condition.levels (max (thenBranch.levels + 1) (elseBranch.levels + 1))

/-- How tightly the outermost construct binds: a conditional most loosely, then the binary operators
by precedence, then the unary ones. -/
def tightness : Written → Nat
  | conditional _ _ _ => 0
  | binary operator _ _ => operator.precedence
  | unary operator _ => operator.tightness
  | literal _ | parenthesized _ => 13

/-- Every operand binds tightly enough for its place: that of a unary operator and that on the left
of a binary one as tightly as the operator, that on the right more tightly; a condition is no
conditional. -/
def WellPlaced : Written → Prop
  | literal _ => True
  | parenthesized inner => inner.WellPlaced
  | unary operator operand => operator.tightness ≤ operand.tightness ∧ operand.WellPlaced
  | binary operator left right =>
    operator.precedence ≤ left.tightness ∧ operator.precedence < right.tightness ∧
      left.WellPlaced ∧ right.WellPlaced
  | conditional condition thenBranch elseBranch =>
    0 < condition.tightness ∧ condition.WellPlaced ∧ thenBranch.WellPlaced ∧ elseBranch.WellPlaced

/-- The expression, in parentheses unless it binds so tightly. -/
def enclose (least : Nat) (written : Written) : Written :=
  if least ≤ written.tightness then written else parenthesized written

end Written

/-- A tree written down with no more parentheses than are needed. -/
def Tree.written : Tree → Written
  | .int number => .literal (.int number)
  | .bool truth => .literal (.bool truth)
  | .null => .literal .null
  | .string text => .literal (.string text)
  | .unary operator operand _ => .unary operator (operand.written.enclose operator.tightness)
  | .binary operator left right _ =>
    .binary operator (left.written.enclose operator.precedence)
      (right.written.enclose (operator.precedence + 1))
  | .conditional condition thenBranch elseBranch _ =>
    .conditional (condition.written.enclose 1) thenBranch.written elseBranch.written

/-- `Adds fewer more`: the second expression is the first one with further pairs of parentheses
around complete expressions. -/
inductive Adds : Written → Written → Prop where
  | literal (value : Value) : Adds (.literal value) (.literal value)
  | parenthesized {fewer more : Written} (inner : Adds fewer more) :
      Adds (.parenthesized fewer) (.parenthesized more)
  | unary (operator : UnaryOperator) {fewer more : Written} (operand : Adds fewer more) :
      Adds (.unary operator fewer) (.unary operator more)
  | binary (operator : BinaryOperator) {fewerLeft moreLeft fewerRight moreRight : Written}
      (left : Adds fewerLeft moreLeft) (right : Adds fewerRight moreRight) :
      Adds (.binary operator fewerLeft fewerRight) (.binary operator moreLeft moreRight)
  | conditional {fewerCondition moreCondition fewerThen moreThen fewerElse moreElse : Written}
      (condition : Adds fewerCondition moreCondition) (thenBranch : Adds fewerThen moreThen)
      (elseBranch : Adds fewerElse moreElse) :
      Adds (.conditional fewerCondition fewerThen fewerElse)
        (.conditional moreCondition moreThen moreElse)
  | around {fewer more : Written} (inner : Adds fewer more) : Adds fewer (.parenthesized more)

/-! ## Needed parentheses -/

theorem UnaryOperator.tightness_le (operator : UnaryOperator) : operator.tightness ≤ 13 := by
  cases operator <;> decide

theorem UnaryOperator.tightness_signed {operator : UnaryOperator} (before : operator ≠ .nonNull) :
    operator.tightness = 11 := by
  cases operator with
  | nonNull => exact absurd rfl before
  | negate | plus | not | complement => rfl

namespace Written

section Enclose

variable {least : Nat} {written : Written}

theorem tree_enclose : (written.enclose least).tree = written.tree := by
  unfold enclose
  split <;> rfl

/-- An operand is enclosed just to make this true. -/
theorem le_tightness_enclose (atMost : least ≤ 13) : least ≤ (written.enclose least).tightness := by
  unfold enclose
  split
  · assumption
  · exact atMost

theorem wellPlaced_enclose (placed : written.WellPlaced) : (written.enclose least).WellPlaced := by
  unfold enclose
  split <;> exact placed

theorem levels_enclose_le : (written.enclose least).levels ≤ written.levels + 1 := by
  unfold enclose
  split
  · exact Nat.le_succ _
  · exact Nat.le_refl _

end Enclose

theorem tightness_le (written : Written) : written.tightness ≤ 13 := by
  cases written with
  | literal | parenthesized => exact Nat.le_refl 13
  | unary operator => exact operator.tightness_le
  | binary operator => exact Nat.le_trans operator.precedence_le (Nat.le_add_right 10 3)
  | conditional => exact Nat.zero_le 13

theorem levels_pos (written : Written) : 0 < written.levels := by
  induction written with
  | literal => exact Nat.zero_lt_one
  | parenthesized => exact Nat.succ_pos _
  | unary operator _ operand =>
    cases operator with
    | nonNull => exact operand
    | negate | plus | not | complement => exact Nat.succ_pos _
  | binary _ _ _ left => exact Nat.lt_of_lt_of_le left (Nat.le_max_left ..)
  | conditional _ _ _ condition => exact Nat.lt_of_lt_of_le condition (Nat.le_max_left ..)

section Signed

variable {operator : UnaryOperator} {operand : Written} (before : operator ≠ .nonNull)

include before

theorem kinds_signed :
    (unary operator operand).kinds = .symbol operator.symbol :: operand.kinds := by
  cases operator with
  | nonNull => exact absurd rfl before
  | negate | plus | not | complement => rfl

theorem levels_signed : (unary operator operand).levels = operand.levels + 1 := by
  cases operator with
  | nonNull => exact absurd rfl before
  | negate | plus | not | complement => rfl

end Signed

theorem levels_unary_le (operator : UnaryOperator) (operand : Written) :
    (unary operator operand).levels ≤ operand.levels + 1 := by
  cases operator with
  | nonNull => exact Nat.le_succ _
  | negate | plus | not | complement => exact Nat.le_refl _

end Written

namespace Tree

/-- Parentheses leave no trace in the tree, so writing loses the columns only. -/
theorem tree_written (tree : Tree) : tree.written.tree = tree.columnless := by
  unfold columnless
  induction tree with
  | int | bool | null | string => rfl
  | unary | binary | conditional =>
    simp only [written, Written.tree, Written.tree_enclose, relocate, *]

/-- Every operand is as tight as its place asks for: one case for each kind of node. -/
theorem wellPlaced_written (tree : Tree) : tree.written.WellPlaced := by
  induction tree with
  | int | bool | null | string => trivial
  | unary operator _ _ operand =>
    exact ⟨Written.le_tightness_enclose operator.tightness_le, Written.wellPlaced_enclose operand⟩
  | binary operator _ _ _ left right =>
    have level := operator.precedence_le
    exact ⟨Written.le_tightness_enclose (by omega), Written.le_tightness_enclose (by omega),
      Written.wellPlaced_enclose left, Written.wellPlaced_enclose right⟩
  | conditional _ _ _ _ condition thenBranch elseBranch =>
    exact ⟨Written.le_tightness_enclose (by decide), Written.wellPlaced_enclose condition,
      thenBranch, elseBranch⟩

/-- Each node of a tree takes two levels at most: one of its own and one for the parentheses around
it. -/
theorem levels_written_lt (tree : Tree) : tree.written.levels < 2 * tree.height := by
  induction tree with
  | int | bool | null | string => exact Nat.lt_add_one 1
  | unary operator operand _ operandLevels =>
    have own := Written.levels_unary_le operator (operand.written.enclose operator.tightness)
    have enclosed : (operand.written.enclose operator.tightness).levels ≤ _ :=
      Written.levels_enclose_le
    simp only [written, height]
    omega
  | binary operator left right _ leftLevels rightLevels =>
    have leftEnclosed : (left.written.enclose operator.precedence).levels ≤ _ :=
      Written.levels_enclose_le
    have rightEnclosed : (right.written.enclose (operator.precedence + 1)).levels ≤ _ :=
      Written.levels_enclose_le
    simp only [written, Written.levels, height]
    omega
  | conditional condition thenBranch elseBranch _ conditionLevels thenLevels elseLevels =>
    have enclosed : (condition.written.enclose 1).levels ≤ _ := Written.levels_enclose_le
    simp only [written, Written.levels, height]
    omega

end Tree

/-! ## More parentheses -/

namespace Adds

variable {fewer more : Written}

theorem refl (written : Written) : Adds written written := by
  induction written with
  | literal value => exact .literal value
  | parenthesized _ inner => exact .parenthesized inner
  | unary operator _ operand => exact .unary operator operand
  | binary operator _ _ left right => exact .binary operator left right
  | conditional _ _ _ condition thenBranch elseBranch =>
    exact .conditional condition thenBranch elseBranch

theorem tree_eq (adds : Adds fewer more) : more.tree = fewer.tree := by
  induction adds with
  | literal => rfl
  | parenthesized | unary | binary | conditional | around => simp only [Written.tree, *]

/-- With more parentheses an expression binds no less tightly. -/
theorem tightness_le (adds : Adds fewer more) : fewer.tightness ≤ more.tightness := by
  cases adds with
  | literal | parenthesized | unary | binary | conditional => exact Nat.le_refl _
  | around => exact fewer.tightness_le

theorem wellPlaced (adds : Adds fewer more) (placed : fewer.WellPlaced) : more.WellPlaced := by
  induction adds with
  | literal => trivial
  | parenthesized _ inner => exact inner placed
  | unary _ added operand => exact ⟨Nat.le_trans placed.1 added.tightness_le, operand placed.2⟩
  | binary _ addedLeft addedRight left right =>
    obtain ⟨leftTight, rightTight, leftPlaced, rightPlaced⟩ := placed
    exact ⟨Nat.le_trans leftTight addedLeft.tightness_le,
      Nat.lt_of_lt_of_le rightTight addedRight.tightness_le,
      left leftPlaced, right rightPlaced⟩
  | conditional addedCondition _ _ condition thenBranch elseBranch =>
    obtain ⟨tight, conditionPlaced, thenPlaced, elsePlaced⟩ := placed
    exact ⟨Nat.lt_of_lt_of_le tight addedCondition.tightness_le, condition conditionPlaced,
      thenBranch thenPlaced, elseBranch elsePlaced⟩
  | around _ inner => exact inner placed

end Adds

end CompilerFront.Expr
