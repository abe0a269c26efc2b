import CompilerFront.Expr.Token
import CompilerFront.Expr.Value

/-!
Contract: expression trees and the operators in them.

Owns:
- prefix, postfix and binary operators, their signs and the precedence of the binary ones;
- `Tree`, whose operator nodes carry the column of their operator;
- the height of a tree.

Does not own: parentheses, which leave no node.
-/

namespace CompilerFront.Expr

/-- The operators of one operand; `nonNull` is written behind it, the others before it. -/
inductive UnaryOperator where
  | negate
  | plus
  | not
  | complement
  | nonNull
deriving DecidableEq, Repr

inductive BinaryOperator where
  | or
  | and
  | bitOr
  | bitXor
  | bitAnd
  | equal
  | notEqual
  | less
  | lessEqual
  | greater
  | greaterEqual
  | shiftLeft
  | shiftRight
  | add
  | subtract
  | multiply
  | divide
  | modulo
deriving DecidableEq, Repr

def UnaryOperator.symbol : UnaryOperator → Symbol
  | .negate => .minus
  | .plus => .plus
  | .not => .bang
  | .complement => .tilde
  | .nonNull => .bangBang

def UnaryOperator.ofSymbol? : Symbol → Option UnaryOperator
  | .minus => some .negate
  | .plus => some .plus
  | .bang => some .not
  | .tilde => some .complement
  | _ => none

namespace BinaryOperator

def symbol : BinaryOperator → Symbol
  | or => .pipePipe
  | and => .ampAmp
  | bitOr => .pipe
  | bitXor => .caret
  | bitAnd => .amp
  | equal => .equal
  | notEqual => .notEqual
  | less => .less
  | lessEqual => .lessEqual
  | greater => .greater
  | greaterEqual => .greaterEqual
  | shiftLeft => .shiftLeft
  | shiftRight => .shiftRight
  | add => .plus
  | subtract => .minus
  | multiply => .star
  | divide => .slash
  | modulo => .percent

def ofSymbol? : Symbol → Option BinaryOperator
  | .pipePipe => some or
  | .ampAmp => some and
  | .pipe => some bitOr
  | .caret => some bitXor
  | .amp => some bitAnd
  | .equal => some equal
  | .notEqual => some notEqual
  | .less => some less
  | .lessEqual => some lessEqual
  | .greater => some greater
  | .greaterEqual => some greaterEqual
  | .shiftLeft => some shiftLeft
  | .shiftRight => some shiftRight
  | .plus => some add
  | .minus => some subtract
  | .star => some multiply
  | .slash => some divide
  | .percent => some modulo
  | _ => none

/-- How tightly an operator binds; of two operators the one with the greater number is tighter. -/
def precedence : BinaryOperator → Nat
  | or => 1
  | and => 2
  | bitOr => 3
  | bitXor => 4
  | bitAnd => 5
  | equal | notEqual => 6
  | less | lessEqual | greater | greaterEqual => 7
  | shiftLeft | shiftRight => 8
  | add | subtract => 9
  | multiply | divide | modulo => 10

/-- Ten levels are enough. -/
theorem precedence_le (operator : BinaryOperator) : operator.precedence ≤ 10 := by
  cases operator <;> decide

/-- No operator binds more loosely than level one. -/
theorem precedence_pos (operator : BinaryOperator) : 0 < operator.precedence := by
  cases operator <;> decide

theorem ofSymbol?_eq_some_iff {symbol : Symbol} {operator : BinaryOperator} :
    ofSymbol? symbol = some operator ↔ operator.symbol = symbol := by
  constructor
  · intro found
    cases symbol <;> cases found <;> rfl
  · rintro rfl
    cases operator <;> rfl

end BinaryOperator

/-- The operators on two integers: arithmetic, bits, shifts and order. -/
inductive IntOperator where
  | add
  | subtract
  | multiply
  | divide
  | modulo
  | bitAnd
  | bitOr
  | bitXor
  | shiftLeft
  | shiftRight
  | less
  | lessEqual
  | greater
  | greaterEqual
deriving DecidableEq, Repr

/-- What an operator of two operands asks of them.

A logical operator is decided by one truth value on its left; an equality asks for two values that
can be compared; all others ask for two integers. -/
inductive OperatorRole where
  | logical (decisive : Bool)
  | equality (negated : Bool)
  | integer (operator : IntOperator)
deriving DecidableEq, Repr

def BinaryOperator.role : BinaryOperator → OperatorRole
  | .or => .logical true
  | .and => .logical false
  | .bitOr => .integer .bitOr
  | .bitXor => .integer .bitXor
  | .bitAnd => .integer .bitAnd
  | .equal => .equality false
  | .notEqual => .equality true
  | .less => .integer .less
  | .lessEqual => .integer .lessEqual
  | .greater => .integer .greater
  | .greaterEqual => .integer .greaterEqual
  | .shiftLeft => .integer .shiftLeft
  | .shiftRight => .integer .shiftRight
  | .add => .integer .add
  | .subtract => .integer .subtract
  | .multiply => .integer .multiply
  | .divide => .integer .divide
  | .modulo => .integer .modulo

def UnaryOperator.sign (operator : UnaryOperator) : String :=
  String.ofList operator.symbol.spelling

def BinaryOperator.sign (operator : BinaryOperator) : String :=
  String.ofList operator.symbol.spelling

/-- Expressions; each operator node carries the column of its operator. -/
inductive Tree where
  | int (number : Int128)
  | bool (truth : Bool)
  | null
  | string (text : String)
  | unary (operator : UnaryOperator) (operand : Tree) (column : Nat)
  | binary (operator : BinaryOperator) (left right : Tree) (column : Nat)
  | conditional (condition thenBranch elseBranch : Tree) (column : Nat)
deriving DecidableEq, Repr

def Tree.height : Tree → Nat
  | .int _ | .bool _ | .null | .string _ => 1
  | .unary _ operand _ => operand.height + 1
  | .binary _ left right _ => max left.height right.height + 1
  | .conditional condition thenBranch elseBranch _ =>
    max (max condition.height thenBranch.height) elseBranch.height + 1

end CompilerFront.Expr
