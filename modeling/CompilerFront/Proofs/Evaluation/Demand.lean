import CompilerFront.Proofs.Evaluation.Rejection

/-!
Contract: which nodes of an expression are evaluated, and whose fault is reported.

Owns:
- `Demanded`, the nodes that evaluation cannot do without, given the values found so far;
- `Rejects`, the nodes that fail by themselves: their demanded children have values, and their own
  rule rejects these;
- `Before`, the order in which nodes are finished: children from left to right, then their parent;
- `evaluate_reports_first`: evaluation fails exactly when a demanded node fails by itself, with the
  fault of the first one.

A node is named by its place: the indices of the children on the way from the root.
-/

namespace CompilerFront.Expr

/-! ## Demand -/

/-- `DemandedChild parent index child`: when the parent is evaluated, so is its child of that index.
The right operand of `||` and `&&` is needed only behind a left one that does not decide, and of the
branches of `?:` the one that the condition selects. -/
inductive DemandedChild : Tree → Nat → Tree → Prop where
  | operand {operator : UnaryOperator} {operand : Tree} {column : Nat} :
      DemandedChild (.unary operator operand column) 0 operand
  | left {operator : BinaryOperator} {left right : Tree} {column : Nat} :
      DemandedChild (.binary operator left right column) 0 left
  | right {operator : BinaryOperator} {left right : Tree} {column : Nat}
      (strict : operator.continuesOn = none) :
      DemandedChild (.binary operator left right column) 1 right
  | rightIfOpen {operator : BinaryOperator} {goesOn : Bool} {left right : Tree} {column : Nat}
      (logical : operator.continuesOn = some goesOn)
      (undecided : left.evaluate = .ok (.bool goesOn)) :
      DemandedChild (.binary operator left right column) 1 right
  | condition {condition thenBranch elseBranch : Tree} {column : Nat} :
      DemandedChild (.conditional condition thenBranch elseBranch column) 0 condition
  | thenBranch {condition thenBranch elseBranch : Tree} {column : Nat}
      (holds : condition.evaluate = .ok (.bool true)) :
      DemandedChild (.conditional condition thenBranch elseBranch column) 1 thenBranch
  | elseBranch {condition thenBranch elseBranch : Tree} {column : Nat}
      (fails : condition.evaluate = .ok (.bool false)) :
      DemandedChild (.conditional condition thenBranch elseBranch column) 2 elseBranch

/-- `Demanded root place node`: the node at a place of the root is demanded. A place lists the
indices of the children on the way down. -/
inductive Demanded (root : Tree) : List Nat → Tree → Prop where
  | root : Demanded root [] root
  | child {place : List Nat} {parent child : Tree} {index : Nat}
      (parentDemanded : Demanded root place parent)
      (childDemanded : DemandedChild parent index child) :
      Demanded root (place ++ [index]) child

/-- `Rejects node fault`: the node fails by itself, with the fault at the column of its operator.

Both operands of a strict operator have values before either is checked, while a logical operator
checks its left operand before it goes on. -/
inductive Rejects : Tree → Located ComputationFault → Prop where
  | unary {operator : UnaryOperator} {operand : Tree} {column : Nat} {value : Value}
      {cause : ComputationFault}
      (operandValue : operand.evaluate = .ok value)
      (rejects : RejectsOperand operator value cause) :
      Rejects (.unary operator operand column) ⟨column, cause⟩
  | strict {operator : BinaryOperator} {left right : Tree} {column : Nat}
      {leftValue rightValue : Value} {cause : ComputationFault}
      (strict : operator.continuesOn = none)
      (hasLeft : left.evaluate = .ok leftValue)
      (hasRight : right.evaluate = .ok rightValue)
      (rejects : RejectsOperands operator leftValue rightValue cause) :
      Rejects (.binary operator left right column) ⟨column, cause⟩
  | logicalLeft {operator : BinaryOperator} {goesOn : Bool} {left right : Tree} {column : Nat}
      {value : Value}
      (logical : operator.continuesOn = some goesOn)
      (hasLeft : left.evaluate = .ok value)
      (other : value.kind ≠ .bool) :
      Rejects (.binary operator left right column)
        ⟨column, .kindMismatch operator.sign .bool value.kind⟩
  | logicalRight {operator : BinaryOperator} {goesOn : Bool} {left right : Tree} {column : Nat}
      {value : Value}
      (logical : operator.continuesOn = some goesOn)
      (undecided : left.evaluate = .ok (.bool goesOn))
      (hasRight : right.evaluate = .ok value)
      (other : value.kind ≠ .bool) :
      Rejects (.binary operator left right column)
        ⟨column, .kindMismatch operator.sign .bool value.kind⟩
  | condition {condition thenBranch elseBranch : Tree} {column : Nat} {value : Value}
      (hasCondition : condition.evaluate = .ok value)
      (other : value.kind ≠ .bool) :
      Rejects (.conditional condition thenBranch elseBranch column)
        ⟨column, .kindMismatch "?:" .bool value.kind⟩

/-- `Before place other`: the node at the one place is finished before the node at the other.
Children come from the left, and each of them before its parent. -/
inductive Before : List Nat → List Nat → Prop where
  | inside {index : Nat} {place : List Nat} : Before (index :: place) []
  | left {index otherIndex : Nat} {place other : List Nat} (lt : index < otherIndex) :
      Before (index :: place) (otherIndex :: other)
  | within {index : Nat} {place other : List Nat} (before : Before place other) :
      Before (index :: place) (index :: other)

/-! ## One node -/

theorem demandedChild_unique {parent child other : Tree} {index : Nat}
    (demanded : DemandedChild parent index child)
    (demandedOther : DemandedChild parent index other) : child = other := by
  cases demanded <;> cases demandedOther <;> rfl

/-- What holds of a tree whenever it holds of its demanded children holds of every tree. -/
theorem demandedChild_induction {property : Tree → Prop}
    (step : ∀ tree, (∀ index child, DemandedChild tree index child → property child) →
      property tree) (tree : Tree) : property tree := by
  induction tree with
  | int | bool | null | string => exact step _ fun _ _ demanded => nomatch demanded
  | unary operator operand column operandHolds =>
    refine step _ fun _ _ demanded => ?_
    cases demanded
    exact operandHolds
  | binary operator left right column leftHolds rightHolds =>
    refine step _ fun _ _ demanded => ?_
    cases demanded with
    | left => exact leftHolds
    | right | rightIfOpen => exact rightHolds
  | conditional condition thenBranch elseBranch column conditionHolds thenHolds elseHolds =>
    refine step _ fun _ _ demanded => ?_
    cases demanded with
    | condition => exact conditionHolds
    | thenBranch => exact thenHolds
    | elseBranch => exact elseHolds

/-- The demanded children of a node before an index have values. -/
def ValuesBefore (parent : Tree) (index : Nat) : Prop :=
  ∀ otherIndex other, otherIndex < index → DemandedChild parent otherIndex other →
    ∃ value, other.evaluate = .ok value

/-- The demanded children of a node that fails by itself have values. -/
theorem values_of_rejects {node child : Tree} {fault : Located ComputationFault} {index : Nat}
    (rejects : Rejects node fault) (demanded : DemandedChild node index child) :
    ∃ value, child.evaluate = .ok value := by
  cases rejects with
  | unary operandValue =>
    cases demanded
    exact ⟨_, operandValue⟩
  | strict _ hasLeft hasRight =>
    cases demanded with
    | left => exact ⟨_, hasLeft⟩
    | right | rightIfOpen => exact ⟨_, hasRight⟩
  | logicalLeft logical hasLeft other =>
    cases demanded with
    | left => exact ⟨_, hasLeft⟩
    | right strict =>
      rw [logical] at strict
      cases strict
    | rightIfOpen _ undecided =>
      rw [hasLeft] at undecided
      cases undecided
      exact absurd rfl other
  | logicalRight _ undecided hasRight =>
    cases demanded with
    | left => exact ⟨_, undecided⟩
    | right | rightIfOpen => exact ⟨_, hasRight⟩
  | condition hasCondition other =>
    cases demanded with
    | condition => exact ⟨_, hasCondition⟩
    | thenBranch holds =>
      rw [hasCondition] at holds
      cases holds
      exact absurd rfl other
    | elseBranch fails =>
      rw [hasCondition] at fails
      cases fails
      exact absurd rfl other

/-- With its demanded children evaluated, a rejected node reports at its own column. -/
theorem evaluate_of_rejects {node : Tree} {fault : Located ComputationFault}
    (rejects : Rejects node fault) : node.evaluate = .error fault := by
  cases rejects with
  | unary operandValue rejects =>
    rw [Tree.evaluate, operandValue, Except.bind, apply_eq_error_iff.mpr rejects]
    rfl
  | @strict operator left right column _ _ _ strict hasLeft hasRight rejects =>
    obtain ⟨rule, ruleFails, shape⟩ := evaluate_strict strict left right column
    rw [shape, hasLeft, hasRight, Except.bind, Except.bind, (ruleFails _ _ _).mpr rejects]
    rfl
  | logicalLeft logical hasLeft other =>
    rw [evaluate_logical logical, hasLeft, Except.bind,
      expectBool_eq_error_iff.mpr ⟨other, rfl⟩]
    rfl
  | logicalRight logical undecided hasRight other =>
    rw [evaluate_logical_open logical undecided, hasRight, Except.bind,
      map_eq_error_iff.mpr (expectBool_eq_error_iff.mpr ⟨other, rfl⟩)]
    rfl
  | condition hasCondition other =>
    rw [Tree.evaluate, hasCondition, Except.bind, expectBool_eq_error_iff.mpr ⟨other, rfl⟩]
    rfl

/-- A node whose first failing demanded child fails with a fault evaluates to that fault. -/
theorem evaluate_of_child {parent child : Tree} {fault : Located ComputationFault} {index : Nat}
    (demanded : DemandedChild parent index child) (failed : child.evaluate = .error fault)
    (earlier : ValuesBefore parent index) : parent.evaluate = .error fault := by
  cases demanded with
  | operand | condition =>
    rw [Tree.evaluate, failed]
    rfl
  | left =>
    rw [Tree.evaluate, failed]
    rfl
  | @right operator left right column strict =>
    obtain ⟨rule, -, shape⟩ := evaluate_strict strict left child column
    obtain ⟨value, hasLeft⟩ := earlier 0 left Nat.one_pos .left
    rw [shape, hasLeft, failed]
    rfl
  | rightIfOpen logical undecided =>
    rw [evaluate_logical_open logical undecided, failed]
    rfl
  | thenBranch holds =>
    rw [Tree.evaluate, holds]
    exact failed
  | elseBranch fails =>
    rw [Tree.evaluate, fails]
    exact failed

/-! ### Faults

Where a node evaluates to a fault, either it fails by itself or its first failing demanded child
does. The two kinds of operators and the conditional have their own order of checks, and are gone
through one by one. -/

/-- A demanded child fails with a fault, and those before it have values. -/
def FailsInChild (node : Tree) (fault : Located ComputationFault) : Prop :=
  ∃ index child, DemandedChild node index child ∧ child.evaluate = .error fault ∧
    ValuesBefore node index

section Faults

variable {left right : Tree} {column : Nat} {fault : Located ComputationFault} {leftValue : Value}

theorem valuesBefore_zero (node : Tree) : ValuesBefore node 0 :=
  fun _ _ lt => absurd lt (Nat.not_lt_zero _)

theorem valuesBefore_right {operator : BinaryOperator}
    (hasLeft : left.evaluate = .ok leftValue) :
    ValuesBefore (.binary operator left right column) 1 := by
  intro otherIndex other lt demanded
  obtain rfl : otherIndex = 0 := by omega
  cases demanded
  exact ⟨leftValue, hasLeft⟩

/-- Only one branch is demanded, so nothing but the condition comes before either. -/
theorem valuesBefore_branch {condition thenBranch elseBranch : Tree} {truth : Bool} {index : Nat}
    (hasCondition : condition.evaluate = .ok (.bool truth))
    (chosen : index = if truth then 1 else 2) :
    ValuesBefore (.conditional condition thenBranch elseBranch column) index := by
  intro otherIndex other lt demanded
  cases demanded with
  | condition => exact ⟨_, hasCondition⟩
  | thenBranch holds =>
    rw [hasCondition] at holds
    cases holds
    rw [chosen, if_pos rfl] at lt
    exact absurd lt (Nat.lt_irrefl 1)
  | elseBranch fails =>
    rw [hasCondition] at fails
    cases fails
    rw [chosen, if_neg Bool.false_ne_true] at lt
    exact absurd lt (Nat.lt_irrefl 2)

theorem rejects_or_child_unary {operator : UnaryOperator} {operand : Tree}
    (failed : (Tree.unary operator operand column).evaluate = .error fault) :
    Rejects (.unary operator operand column) fault ∨
      FailsInChild (.unary operator operand column) fault := by
  rw [Tree.evaluate] at failed
  cases operandOutcome : operand.evaluate with
  | error operandFault =>
    rw [operandOutcome] at failed
    cases failed
    exact .inr ⟨0, operand, .operand, operandOutcome, valuesBefore_zero _⟩
  | ok value =>
    rw [operandOutcome, Except.bind] at failed
    cases outcome : operator.apply value with
    | ok result =>
      rw [outcome] at failed
      cases failed
    | error cause =>
      rw [outcome] at failed
      cases failed
      exact .inl (.unary operandOutcome (apply_eq_error_iff.mp outcome))

/-- With a value on the left, a strict operator evaluates its right operand before its rule. -/
theorem rejects_or_child_strict {operator : BinaryOperator} (strict : operator.continuesOn = none)
    (hasLeft : left.evaluate = .ok leftValue)
    (failed : (Tree.binary operator left right column).evaluate = .error fault) :
    Rejects (.binary operator left right column) fault ∨
      FailsInChild (.binary operator left right column) fault := by
  obtain ⟨rule, ruleFails, shape⟩ := evaluate_strict strict left right column
  rw [shape, hasLeft, Except.bind] at failed
  cases rightOutcome : right.evaluate with
  | error rightFault =>
    rw [rightOutcome] at failed
    cases failed
    exact .inr ⟨1, right, .right strict, rightOutcome, valuesBefore_right hasLeft⟩
  | ok rightValue =>
    rw [rightOutcome, Except.bind] at failed
    cases outcome : rule leftValue rightValue with
    | ok result =>
      rw [outcome] at failed
      cases failed
    | error cause =>
      rw [outcome] at failed
      cases failed
      exact .inl (.strict strict hasLeft rightOutcome ((ruleFails _ _ _).mp outcome))

/-- A logical operator checks its left operand at once, and goes on to the right one only if the
left one does not decide. -/
theorem rejects_or_child_logical {operator : BinaryOperator} {goesOn : Bool}
    (logical : operator.continuesOn = some goesOn) (hasLeft : left.evaluate = .ok leftValue)
    (failed : (Tree.binary operator left right column).evaluate = .error fault) :
    Rejects (.binary operator left right column) fault ∨
      FailsInChild (.binary operator left right column) fault := by
  by_cases isBool : leftValue.kind = .bool
  rotate_left
  · rw [evaluate_logical logical, hasLeft, Except.bind,
      expectBool_eq_error_iff.mpr ⟨isBool, rfl⟩] at failed
    cases failed
    exact .inl (.logicalLeft logical hasLeft isBool)
  obtain ⟨truth, rfl⟩ : ∃ truth, leftValue = .bool truth := by
    cases leftValue with
    | bool truth => exact ⟨truth, rfl⟩
    | int | null | string => cases isBool
  by_cases undecided : truth = goesOn
  rotate_left
  · rw [evaluate_logical logical, hasLeft] at failed
    simp only [Except.bind, Outcome.expectBool, Outcome.reportedAt, undecided,
      ↓reduceIte] at failed
    cases failed
  subst undecided
  rw [evaluate_logical_open logical hasLeft] at failed
  cases rightOutcome : right.evaluate with
  | error rightFault =>
    rw [rightOutcome] at failed
    cases failed
    exact .inr ⟨1, right, .rightIfOpen logical hasLeft, rightOutcome, valuesBefore_right hasLeft⟩
  | ok rightValue =>
    rw [rightOutcome, Except.bind] at failed
    cases rightValue with
    | bool => cases failed
    | int | null | string =>
      cases failed
      exact .inl (.logicalRight logical hasLeft rightOutcome (by simp [Value.kind]))

theorem rejects_or_child_conditional {condition thenBranch elseBranch : Tree}
    (failed : (Tree.conditional condition thenBranch elseBranch column).evaluate = .error fault) :
    Rejects (.conditional condition thenBranch elseBranch column) fault ∨
      FailsInChild (.conditional condition thenBranch elseBranch column) fault := by
  rw [Tree.evaluate] at failed
  cases conditionOutcome : condition.evaluate with
  | error conditionFault =>
    rw [conditionOutcome] at failed
    cases failed
    exact .inr ⟨0, condition, .condition, conditionOutcome, valuesBefore_zero _⟩
  | ok value =>
    rw [conditionOutcome, Except.bind] at failed
    cases value with
    | int | null | string =>
      cases failed
      exact .inl (.condition conditionOutcome (by simp [Value.kind]))
    | bool truth =>
      have before : ValuesBefore (.conditional condition thenBranch elseBranch column)
          (if truth then 1 else 2) := valuesBefore_branch conditionOutcome rfl
      cases truth with
      | true => exact .inr ⟨1, thenBranch, .thenBranch conditionOutcome, failed, before⟩
      | false => exact .inr ⟨2, elseBranch, .elseBranch conditionOutcome, failed, before⟩

/-- A node that evaluates to a fault either fails by itself or has a first failing demanded child,
whose fault it is. -/
theorem rejects_or_child {node : Tree} (failed : node.evaluate = .error fault) :
    Rejects node fault ∨ FailsInChild node fault := by
  cases node with
  | int | bool | null | string => cases failed
  | unary => exact rejects_or_child_unary failed
  | binary operator left right column =>
    cases leftOutcome : left.evaluate with
    | error leftFault =>
      rw [Tree.evaluate, leftOutcome] at failed
      cases failed
      exact .inr ⟨0, left, .left, leftOutcome, valuesBefore_zero _⟩
    | ok leftValue =>
      cases logical : operator.continuesOn with
      | none => exact rejects_or_child_strict logical leftOutcome failed
      | some goesOn => exact rejects_or_child_logical logical leftOutcome failed
  | conditional => exact rejects_or_child_conditional failed

end Faults

/-! ## Places -/

section Places

variable {tree node : Tree} {place : List Nat} {index : Nat}

theorem demanded_nil_iff : Demanded tree [] node ↔ node = tree := by
  constructor
  · intro demanded
    generalize whole : ([] : List Nat) = path at demanded
    cases demanded with
    | root => rfl
    | child => simp at whole
  · rintro rfl
    exact .root

/-- A demanded place below a child of the root is a demanded place of that child. -/
theorem demanded_cons_iff :
    Demanded tree (index :: place) node ↔
      ∃ child, DemandedChild tree index child ∧ Demanded child place node := by
  constructor
  · -- The place grows at its end, so that the induction is on the way to the node.
    intro demanded
    generalize whole : index :: place = path at demanded
    induction demanded generalizing place with
    | root => cases whole
    | @child path parent child last parentDemanded childDemanded inductionHypothesis =>
      cases path with
      | nil =>
        cases whole
        obtain rfl := demanded_nil_iff.mp parentDemanded
        exact ⟨child, childDemanded, .root⟩
      | cons first path =>
        cases whole
        obtain ⟨top, topDemanded, below⟩ := inductionHypothesis rfl
        exact ⟨top, topDemanded, .child below childDemanded⟩
  · rintro ⟨child, childDemanded, below⟩
    induction below with
    | root => exact .child .root childDemanded
    | @child path _ _ _ _ lastDemanded inductionHypothesis =>
      exact @Demanded.child tree (index :: path) _ _ _ inductionHypothesis lastDemanded

/-- A place leads to one node, by induction on the place. -/
theorem demanded_unique {other : Tree} (demanded : Demanded tree place node)
    (demandedOther : Demanded tree place other) : node = other := by
  induction place generalizing tree with
  | nil => rw [demanded_nil_iff.mp demanded, demanded_nil_iff.mp demandedOther]
  | cons index place inductionHypothesis =>
    obtain ⟨child, childDemanded, below⟩ := demanded_cons_iff.mp demanded
    obtain ⟨otherChild, otherChildDemanded, otherBelow⟩ := demanded_cons_iff.mp demandedOther
    rw [← demandedChild_unique childDemanded otherChildDemanded] at otherBelow
    exact inductionHypothesis below otherBelow

end Places

theorem before_asymm {place other : List Nat} (before : Before place other) :
    ¬Before other place := by
  induction before with
  | inside => exact fun after => nomatch after
  | left lt =>
    intro after
    cases after with
    | left gt => exact Nat.lt_asymm lt gt
    | within => exact Nat.lt_irrefl _ lt
  | within _ inductionHypothesis =>
    intro after
    cases after with
    | left lt => exact Nat.lt_irrefl _ lt
    | within after => exact inductionHypothesis after

/-! ## Whole trees -/

/-- A tree with a value has no demanded node without one. -/
theorem value_of_demanded {tree node : Tree} {place : List Nat} {value : Value}
    (demanded : Demanded tree place node) (hasValue : tree.evaluate = .ok value) :
    ∃ nodeValue, node.evaluate = .ok nodeValue := by
  induction demanded with
  | root => exact ⟨value, hasValue⟩
  | @child _ parent child index _ childDemanded inductionHypothesis =>
    obtain ⟨parentValue, hasParent⟩ := inductionHypothesis
    -- The first demanded child without a value would leave the parent without one.
    induction index using Nat.strongRecOn generalizing child with
    | ind index earlierHave =>
      cases outcome : child.evaluate with
      | ok childValue => exact ⟨childValue, rfl⟩
      | error fault =>
        have earlier : ValuesBefore parent index := fun otherIndex other lt otherDemanded =>
          earlierHave otherIndex lt otherDemanded
        rw [evaluate_of_child childDemanded outcome earlier] at hasParent
        cases hasParent

/-- `FirstRejection tree place node fault`: at the place stands a demanded node that fails by itself
with the fault, and all others that do are behind it. -/
structure FirstRejection (tree : Tree) (place : List Nat) (node : Tree)
    (fault : Located ComputationFault) : Prop where
  demanded : Demanded tree place node
  rejects : Rejects node fault
  first : ∀ other otherNode otherFault, Demanded tree other otherNode →
    Rejects otherNode otherFault → other = place ∨ Before place other

/-- A tree that evaluates to a fault has a first demanded node that fails by itself, and the fault
is the one of this node. -/
theorem firstRejection_of_error {tree : Tree} {fault : Located ComputationFault}
    (failed : tree.evaluate = .error fault) :
    ∃ place node, FirstRejection tree place node fault := by
  induction tree using demandedChild_induction with
  | step tree inductionHypothesis =>
    rcases rejects_or_child failed with rejects | ⟨index, child, demanded, childFailed, earlier⟩
    · refine ⟨[], tree, .root, rejects, fun other otherNode otherFault otherDemanded fails => ?_⟩
      cases other with
      | nil => exact .inl rfl
      | cons otherIndex other =>
        -- Below a node that fails by itself everything demanded has a value.
        obtain ⟨top, topDemanded, below⟩ := demanded_cons_iff.mp otherDemanded
        obtain ⟨topValue, hasTop⟩ := values_of_rejects rejects topDemanded
        obtain ⟨otherValue, hasOther⟩ := value_of_demanded below hasTop
        rw [evaluate_of_rejects fails] at hasOther
        cases hasOther
    · obtain ⟨place, node, nodeDemanded, rejects, first⟩ :=
        inductionHypothesis index child demanded childFailed
      refine ⟨index :: place, node, demanded_cons_iff.mpr ⟨child, demanded, nodeDemanded⟩, rejects,
        fun other otherNode otherFault otherDemanded fails => ?_⟩
      cases other with
      | nil => exact .inr .inside
      | cons otherIndex other =>
        obtain ⟨top, topDemanded, below⟩ := demanded_cons_iff.mp otherDemanded
        rcases Nat.lt_trichotomy otherIndex index with lt | rfl | gt
        · obtain ⟨topValue, hasTop⟩ := earlier otherIndex top lt topDemanded
          obtain ⟨otherValue, hasOther⟩ := value_of_demanded below hasTop
          rw [evaluate_of_rejects fails] at hasOther
          cases hasOther
        · obtain rfl := demandedChild_unique demanded topDemanded
          rcases first other otherNode otherFault below fails with rfl | behind
          · exact .inl rfl
          · exact .inr (.within behind)
        · exact .inr (.left gt)

/-- Two first rejections have one place, since neither comes before the other, and a node has one
outcome. -/
theorem firstRejection_unique {tree node other : Tree} {place otherPlace : List Nat}
    {fault otherFault : Located ComputationFault} (first : FirstRejection tree place node fault)
    (otherFirst : FirstRejection tree otherPlace other otherFault) : fault = otherFault := by
  have samePlace : otherPlace = place := by
    rcases first.first _ _ _ otherFirst.demanded otherFirst.rejects with same | behind
    · exact same
    rcases otherFirst.first _ _ _ first.demanded first.rejects with same | ahead
    · exact same.symm
    exact absurd ahead (before_asymm behind)
  subst samePlace
  obtain rfl := demanded_unique first.demanded otherFirst.demanded
  have outcome := evaluate_of_rejects first.rejects
  rw [evaluate_of_rejects otherFirst.rejects] at outcome
  cases outcome
  rfl

/-- An expression has a value exactly when no demanded node fails by itself, and otherwise its fault
is that of the first one that does. Which nodes are demanded depends on values, so places are
followed from the root down and not listed beforehand. -/
theorem evaluate_reports_first (tree : Tree) :
    ((∃ value, tree.evaluate = .ok value) ↔
        ∀ place node fault, Demanded tree place node → ¬Rejects node fault) ∧
      ∀ fault, tree.evaluate = .error fault ↔
        ∃ place node, FirstRejection tree place node fault := by
  have noRejection : ∀ value, tree.evaluate = .ok value →
      ∀ place node fault, Demanded tree place node → ¬Rejects node fault := by
    intro value hasValue place node fault demanded rejects
    obtain ⟨nodeValue, hasNode⟩ := value_of_demanded demanded hasValue
    rw [evaluate_of_rejects rejects] at hasNode
    cases hasNode
  constructor
  · constructor
    · rintro ⟨value, hasValue⟩
      exact noRejection value hasValue
    · intro nothingRejects
      cases outcome : tree.evaluate with
      | ok value => exact ⟨value, rfl⟩
      | error fault =>
        obtain ⟨place, node, first⟩ := firstRejection_of_error outcome
        exact absurd first.rejects (nothingRejects place node fault first.demanded)
  · intro fault
    constructor
    · exact firstRejection_of_error
    · rintro ⟨place, node, first⟩
      cases outcome : tree.evaluate with
      | ok value => exact absurd first.rejects (noRejection value outcome _ _ _ first.demanded)
      | error other =>
        obtain ⟨otherPlace, otherNode, otherFirst⟩ := firstRejection_of_error outcome
        rw [firstRejection_unique first otherFirst]

-- The left operand of a logical operator is checked before the division behind it is evaluated.
example :
    (Tree.binary .or (.int ⟨1, by decide, by decide⟩)
      (.binary .divide (.int ⟨1, by decide, by decide⟩) (.int ⟨0, by decide, by decide⟩) 7)
      3).evaluate = .error ⟨3, .kindMismatch "||" .bool .int⟩ := rfl

end CompilerFront.Expr
