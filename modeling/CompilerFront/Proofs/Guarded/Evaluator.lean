import CompilerFront.Proofs.Guarded.Arithmetic

/-!
Contract: the evaluator as a program over the guarded rules of integers.

Owns:
- `evaluate`, which sorts the operators out one by one before it asks for two integers;
- `evaluate_eq`, that no guard is breached on any tree and that the program comes to the value.
-/

namespace CompilerFront.Expr.Guarded

abbrev Evaluates : Type := Except Breach (Except (Located ComputationFault) Value)

section Proceed

variable {Fault Result Next : Type}

/-- Goes on with a result and stops at a fault. -/
def proceed (first : Except Breach (Except Fault Result))
    (next : Result → Except Breach (Except Fault Next)) : Except Breach (Except Fault Next) :=
  first.bind fun
    | .error fault => .ok (.error fault)
    | .ok result => next result

/-- Where nothing that follows is breached, nothing is. -/
theorem proceed_ok {outcome : Except Fault Result}
    {next : Result → Except Breach (Except Fault Next)} {follows : Result → Except Fault Next}
    (unbreached : ∀ result, next result = .ok (follows result)) :
    proceed (.ok outcome) next = .ok (outcome.bind follows) := by
  cases outcome with
  | error fault => rfl
  | ok result => exact unbreached result

end Proceed

/-! ## Programs -/

/-- An operator that one truth value on its left decides; only the other one needs its right. -/
def shortCircuit (decisive : Bool) (sign : String) (column : Nat) (left right : Evaluates) :
    Evaluates :=
  proceed left fun leftValue =>
  proceed (.ok (Outcome.reportedAt column (Outcome.expectBool sign leftValue))) fun truth =>
    if truth = decisive then .ok (.ok (.bool decisive))
    else
      proceed right fun rightValue =>
        .ok (Outcome.reportedAt column ((Outcome.expectBool sign rightValue).map .bool))

def comparison (negated : Bool) (sign : String) (column : Nat) (left right : Value) : Evaluates :=
  .ok (Outcome.reportedAt column
    ((Outcome.equality sign left right).map fun same => .bool (same != negated)))

/-- An operator on the values of both operands. All that compare values are sorted out first. -/
def strict (operator : BinaryOperator) (column : Nat) (left right : Value) : Evaluates :=
  match operator with
  | .equal => comparison false operator.sign column left right
  | .notEqual => comparison true operator.sign column left right
  | _ =>
    proceed (.ok (Outcome.reportedAt column (Outcome.expectInt operator.sign left)))
      fun leftNumber =>
    proceed (.ok (Outcome.reportedAt column (Outcome.expectInt operator.sign right)))
      fun rightNumber =>
        (intBinary operator leftNumber rightNumber).map (Outcome.reportedAt column)

/-- An operator of two operands. Those that need not have both are sorted out first. -/
def binary (operator : BinaryOperator) (column : Nat) (left right : Evaluates) : Evaluates :=
  match operator with
  | .or => shortCircuit true operator.sign column left right
  | .and => shortCircuit false operator.sign column left right
  | _ =>
    proceed left fun leftValue =>
    proceed right fun rightValue => strict operator column leftValue rightValue

def evaluate : Tree → Evaluates
  | .int number => .ok (.ok (.int number))
  | .bool truth => .ok (.ok (.bool truth))
  | .null => .ok (.ok .null)
  | .string text => .ok (.ok (.string text))
  | .unary operator operand column =>
    proceed (evaluate operand) fun value => .ok (Outcome.reportedAt column (operator.apply value))
  | .binary operator left right column =>
    binary operator column (evaluate left) (evaluate right)
  | .conditional condition thenBranch elseBranch column =>
    proceed (evaluate condition) fun value =>
    proceed (.ok (Outcome.reportedAt column (Outcome.expectBool "?:" value))) fun truth =>
      if truth then evaluate thenBranch else evaluate elseBranch

/-! ## What they come to -/

section Operators

variable {operator : BinaryOperator} {column : Nat}

/-- With a value on the left, the program looks at the right operand only if the left one does not
decide. -/
theorem shortCircuit_ok (decisive : Bool) (sign : String)
    (left right : Except (Located ComputationFault) Value) :
    shortCircuit decisive sign column (.ok left) (.ok right) =
      .ok (left.bind fun leftValue =>
        (Outcome.reportedAt column (Outcome.expectBool sign leftValue)).bind fun truth =>
          if truth = decisive then .ok (.bool decisive)
          else
            right.bind fun rightValue =>
              Outcome.reportedAt column ((Outcome.expectBool sign rightValue).map .bool)) := by
  refine proceed_ok fun leftValue => proceed_ok fun truth => ?_
  by_cases decided : truth = decisive
  · rw [if_pos decided, if_pos decided]
  · rw [if_neg decided, if_neg decided]
    exact proceed_ok fun rightValue => rfl

/-- An operator on integers checks the left operand first. -/
theorem strict_integer {intOperator : IntOperator} (role : operator.role = .integer intOperator)
    (left right : Value) :
    strict operator column left right =
      .ok (Outcome.reportedAt column (intOperator.applyValues operator.sign left right)) := by
  have applied (leftNumber rightNumber : Int128) :
      (intBinary operator leftNumber rightNumber).map (Outcome.reportedAt column) =
        .ok (Outcome.reportedAt column (intOperator.apply leftNumber rightNumber)) := by
    rw [intBinary_eq role]
    rfl
  have sorted : strict operator column left right =
      proceed (.ok (Outcome.reportedAt column (Outcome.expectInt operator.sign left)))
        fun leftNumber =>
      proceed (.ok (Outcome.reportedAt column (Outcome.expectInt operator.sign right)))
        fun rightNumber =>
          (intBinary operator leftNumber rightNumber).map (Outcome.reportedAt column) := by
    cases operator with
    | equal | notEqual => cases role
    | _ => rfl
  rw [sorted, IntOperator.applyValues]
  cases Outcome.expectInt operator.sign left with
  | error cause => rfl
  | ok leftNumber =>
    cases Outcome.expectInt operator.sign right with
    | error cause => rfl
    | ok rightNumber => exact applied leftNumber rightNumber

/-- An operator that always needs both operands evaluates the left one first. -/
theorem binary_strict (strictly : operator.continuesOn = none)
    (left right : Except (Located ComputationFault) Value)
    {rule : Value → Value → Except (Located ComputationFault) Value}
    (ruled : ∀ leftValue rightValue, strict operator column leftValue rightValue =
      .ok (rule leftValue rightValue)) :
    binary operator column (.ok left) (.ok right) =
      .ok (left.bind fun leftValue => right.bind fun rightValue => rule leftValue rightValue) := by
  have sorted : binary operator column (.ok left) (.ok right) =
      proceed (.ok left) fun leftValue =>
      proceed (.ok right) fun rightValue => strict operator column leftValue rightValue := by
    cases operator with
    | or | and => cases strictly
    | _ => rfl
  rw [sorted]
  exact proceed_ok fun leftValue => proceed_ok fun rightValue => ruled leftValue rightValue

end Operators

/-- No guard is breached on any tree, and the program comes to the value of the tree. -/
theorem evaluate_eq (tree : Tree) : evaluate tree = .ok tree.evaluate := by
  induction tree with
  | int | bool | null | string => rfl
  | unary operator operand column inductionHypothesis =>
    rw [evaluate, inductionHypothesis]
    exact proceed_ok fun value => rfl
  | binary operator left right column leftHypothesis rightHypothesis =>
    rw [evaluate, leftHypothesis, rightHypothesis, Tree.evaluate]
    cases operator with
    | or => exact shortCircuit_ok true _ _ _
    | and => exact shortCircuit_ok false _ _ _
    | equal | notEqual => exact binary_strict rfl _ _ fun _ _ => rfl
    | _ => exact binary_strict rfl _ _ fun _ _ => strict_integer rfl _ _
  | conditional condition thenBranch elseBranch column conditionHypothesis thenHypothesis
      elseHypothesis =>
    rw [evaluate, conditionHypothesis, thenHypothesis, elseHypothesis]
    refine proceed_ok fun value => proceed_ok fun truth => ?_
    cases truth with
    | true => rfl
    | false => rfl

end CompilerFront.Expr.Guarded
