import CompilerFront.Expr.Fault
import CompilerFront.Expr.Tree

/-!
Contract: the value of an expression tree.

Owns:
- the rule of each operator on values, division and remainder rounding down;
- `Tree.evaluate`, which evaluates operands from left to right and, of the operands of `||`, `&&`
  and `?:`, only those that are needed.

A fault carries the column of the operator whose rule rejected its operands.
-/

namespace CompilerFront.Expr

abbrev Outcome (Result : Type) : Type := Except ComputationFault Result

namespace Outcome

/-- A bounded integer for an unbounded result, when it is in range. -/
def ofInt (number : Int) : Outcome Int128 :=
  match Int128.ofInt? number with
  | some bounded => .ok bounded
  | none => .error .overflow

def expectInt (operator : String) : Value → Outcome Int128
  | .int number => .ok number
  | other => .error (.kindMismatch operator .int other.kind)

def expectBool (operator : String) : Value → Outcome Bool
  | .bool truth => .ok truth
  | other => .error (.kindMismatch operator .bool other.kind)

/-- Equality of values: of one kind, or of any kinds when one of them is null. -/
def equality (operator : String) (left right : Value) : Outcome Bool :=
  if left.kind = right.kind ∨ left.kind = .null ∨ right.kind = .null then
    .ok (left == right)
  else
    .error (.incomparable left.kind right.kind operator)

/-- The amount of a shift, which is less than the width of an integer. -/
def shiftAmount (amount : Int128) : Outcome Nat :=
  if 0 ≤ amount.toInt ∧ amount.toInt ≤ 127 then .ok amount.toInt.toNat
  else .error .shiftOutOfRange

def quotient (left right : Int128) : Outcome Int128 :=
  if right.toInt = 0 then .error .divisionByZero
  else ofInt (left.toInt.fdiv right.toInt)

/-- The remainder of the quotient rounded down; it is zero or has the sign of the divisor. -/
def remainder (left right : Int128) : Outcome Int128 :=
  if right.toInt = 0 then .error .divisionByZero
  else ofInt (left.toInt.fmod right.toInt)

/-- An integer times a power of two: its bits move to higher places, and none is lost. -/
def shiftLeft (number amount : Int128) : Outcome Int128 :=
  (shiftAmount amount).bind fun places => ofInt (number.toInt <<< places)

/-- An integer divided by a power of two, rounded down. -/
def shiftRight (number amount : Int128) : Outcome Int128 :=
  (shiftAmount amount).map fun places => number.shiftRight places

end Outcome

def UnaryOperator.apply (operator : UnaryOperator) (value : Value) : Outcome Value :=
  match operator with
  | .negate =>
    (Outcome.expectInt operator.sign value).bind fun number =>
      (Outcome.ofInt (-number.toInt)).map .int
  | .plus => (Outcome.expectInt operator.sign value).map .int
  | .not => (Outcome.expectBool operator.sign value).map fun truth => .bool !truth
  | .complement =>
    (Outcome.expectInt operator.sign value).map fun number => .int number.complement
  | .nonNull =>
    match value with
    | .null => .error .nullValue
    | other => .ok other

def IntOperator.apply (operator : IntOperator) (left right : Int128) : Outcome Value :=
  match operator with
  | .add => (Outcome.ofInt (left.toInt + right.toInt)).map .int
  | .subtract => (Outcome.ofInt (left.toInt - right.toInt)).map .int
  | .multiply => (Outcome.ofInt (left.toInt * right.toInt)).map .int
  | .divide => (Outcome.quotient left right).map .int
  | .modulo => (Outcome.remainder left right).map .int
  | .bitAnd => .ok (.int (left.and right))
  | .bitOr => .ok (.int (left.or right))
  | .bitXor => .ok (.int (left.xor right))
  | .shiftLeft => (Outcome.shiftLeft left right).map .int
  | .shiftRight => (Outcome.shiftRight left right).map .int
  | .less => .ok (.bool (decide (left.toInt < right.toInt)))
  | .lessEqual => .ok (.bool (decide (left.toInt ≤ right.toInt)))
  | .greater => .ok (.bool (decide (right.toInt < left.toInt)))
  | .greaterEqual => .ok (.bool (decide (right.toInt ≤ left.toInt)))

/-- The rule of an operator that always needs both operands; the left one is checked first. -/
def IntOperator.applyValues (operator : IntOperator) (sign : String) (left right : Value) :
    Outcome Value :=
  (Outcome.expectInt sign left).bind fun leftNumber =>
    (Outcome.expectInt sign right).bind fun rightNumber => operator.apply leftNumber rightNumber

def Outcome.reportedAt {Result : Type} (column : Nat) (outcome : Outcome Result) :
    Except (Located ComputationFault) Result :=
  match outcome with
  | .ok result => .ok result
  | .error cause => .error ⟨column, cause⟩

def Tree.evaluate : Tree → Except (Located ComputationFault) Value
  | .int number => .ok (.int number)
  | .bool truth => .ok (.bool truth)
  | .null => .ok .null
  | .string text => .ok (.string text)
  | .unary operator operand column =>
    operand.evaluate.bind fun value => Outcome.reportedAt column (operator.apply value)
  | .binary operator left right column =>
    left.evaluate.bind fun leftValue =>
      match operator.role with
      | .logical decisive =>
        (Outcome.reportedAt column (Outcome.expectBool operator.sign leftValue)).bind fun truth =>
          if truth = decisive then .ok (.bool decisive)
          else
            right.evaluate.bind fun rightValue =>
              Outcome.reportedAt column
                ((Outcome.expectBool operator.sign rightValue).map Value.bool)
      | .equality negated =>
        right.evaluate.bind fun rightValue =>
          Outcome.reportedAt column
            ((Outcome.equality operator.sign leftValue rightValue).map fun same =>
              Value.bool (same != negated))
      | .integer intOperator =>
        right.evaluate.bind fun rightValue =>
          Outcome.reportedAt column
            (intOperator.applyValues operator.sign leftValue rightValue)
  | .conditional condition thenBranch elseBranch column =>
    condition.evaluate.bind fun value =>
      (Outcome.reportedAt column (Outcome.expectBool "?:" value)).bind fun truth =>
        if truth then thenBranch.evaluate else elseBranch.evaluate

end CompilerFront.Expr
