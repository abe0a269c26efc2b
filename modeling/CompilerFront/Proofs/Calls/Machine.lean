import Mathlib.Computability.StateTransition
import CompilerFront.Proofs.Grammar.Steps
import CompilerFront.Proofs.Guarded.Parser

/-!
Contract: the reader of expressions as a machine that keeps its calls on a stack.

Owns:
- `Pending`, what a function of the reader has still to do when a call that it made answers;
- `firstMove` and `nextMove`, the table of all moves: whether the current token is
  taken, and whether the function then answers, goes on as another one, or asks one and waits;
- `step` on configurations, which hold the position and the depth, the tokens taken and the stack.

Does not own: what the machine comes to. That this is what the functions of the reader give is shown
in `CompilerFront.Proofs.Calls.Returns`.
-/

namespace CompilerFront.Expr

/-- The token at a position of a row; from the last token on it is the last one. -/
def TokenStream.tokenAt (row : TokenStream) (position : Nat) : Token :=
  row.toList.get ⟨min position row.later.length,
    Nat.lt_succ_of_le (Nat.min_le_right position row.later.length)⟩

namespace Calls

open CompilerFront.Expr.Parser (Task leaf? operandFault)
open Guarded (ParserState)
open Guarded.Parser (operatorOf prefixOf)

/-- What a call comes to, but for the place that it leaves off at. -/
abbrev Answer : Type := Except (Located SyntaxFault) Measured

/-! ## Moves -/

/-- What a function has still to do when a call that it made answers: leave the level of an
expression, or go on behind a condition, a branch, an operand or what stands in parentheses. -/
inductive Pending where
  | leave
  | condition
  | thenBranch (condition : Measured) (column : Nat)
  | elseBranch (condition thenBranch : Measured) (column : Nat)
  | leftOperand (loosest : Nat)
  | rightOperand (loosest : Nat) (left : Measured) (operator : BinaryOperator) (column : Nat)
  | signed (operator : UnaryOperator) (column : Nat)
  | marks
  | closing
deriving DecidableEq, Repr

def Pending.task : Pending → Task
  | .leave => .conditional
  | .condition | .thenBranch .. | .elseBranch .. => .conditionalBody
  | .leftOperand loosest => .binary loosest
  | .rightOperand loosest left .. => .binaryTail loosest left
  | .signed .. => .unary
  | .marks => .postfixed
  | .closing => .operand

/-- The number of levels entered for the call, which are left when it answers. -/
def Pending.levels : Pending → Nat
  | .leave | .signed .. => 1
  | _ => 0

/-- What a function does next: it answers, it goes on as another function, or it asks one and
waits for the answer. -/
inductive Action where
  | answer (answer : Answer)
  | proceed (task : Task)
  | ask (pending : Pending) (task : Task)
deriving DecidableEq, Repr

def Action.fault (column : Nat) (cause : SyntaxFault) : Action :=
  .answer (.error ⟨column, cause⟩)

/-- Goes on with a node unless it is too high, which is a fault at its operator. -/
def Action.unlessTooHigh (node : Measured) (column : Nat) (next : Action) : Action :=
  if node.height ≤ nestingLimit then next else .fault column .tooDeep

/-- An action, and whether the current token is taken before it. -/
structure Move where
  takes : Bool
  action : Action
deriving DecidableEq, Repr

/-- The first move of a function at a token and a depth. -/
def firstMove (token : Token) (depth : Nat) : Task → Move
  | .conditional =>
    if depth < nestingLimit then ⟨false, .ask .leave .conditionalBody⟩
    else ⟨false, .fault token.column .tooDeep⟩
  | .conditionalBody => ⟨false, .ask .condition (.binary 0)⟩
  | .binary loosest => ⟨false, .ask (.leftOperand loosest) .unary⟩
  | .binaryTail loosest left =>
    match operatorOf token with
    | none => ⟨false, .answer (.ok left)⟩
    | some operator =>
      if loosest ≤ operator.precedence then
        ⟨true, .ask (.rightOperand loosest left operator token.column)
          (.binary (operator.precedence + 1))⟩
      else ⟨false, .answer (.ok left)⟩
  | .unary =>
    match prefixOf token with
    | none => ⟨false, .proceed .postfixed⟩
    | some operator =>
      if depth < nestingLimit then ⟨true, .ask (.signed operator token.column) .unary⟩
      else ⟨false, .fault token.column .tooDeep⟩
  | .postfixed => ⟨false, .ask .marks .operand⟩
  | .postfixTail inner =>
    if token.kind = .symbol .bangBang then
      let marked := Measured.unary .nonNull inner token.column
      ⟨true, .unlessTooHigh marked token.column (.proceed (.postfixTail marked))⟩
    else ⟨false, .answer (.ok inner)⟩
  | .operand =>
    match leaf? token.kind with
    | some tree => ⟨true, .answer (.ok ⟨tree, 1⟩)⟩
    | none =>
      if token.kind = .symbol .leftParen then ⟨true, .ask .closing .conditional⟩
      else ⟨true, .fault token.column (operandFault token.kind)⟩

/-- The next move of a function at a token, when the call that it waits for has read something. -/
def nextMove (token : Token) (read : Measured) : Pending → Move
  | .leave => ⟨false, .answer (.ok read)⟩
  | .condition =>
    if token.kind = .symbol .question then ⟨true, .ask (.thenBranch read token.column) .conditional⟩
    else ⟨false, .answer (.ok read)⟩
  | .thenBranch condition column =>
    if token.kind = .symbol .colon then
      ⟨true, .ask (.elseBranch condition read column) .conditional⟩
    else ⟨false, .fault token.column .expectedColon⟩
  | .elseBranch condition thenBranch column =>
    let choice := Measured.conditional condition thenBranch read column
    ⟨false, .unlessTooHigh choice column (.answer (.ok choice))⟩
  | .leftOperand loosest => ⟨false, .proceed (.binaryTail loosest read)⟩
  | .rightOperand loosest left operator column =>
    let operation := Measured.binary operator left read column
    ⟨false, .unlessTooHigh operation column (.proceed (.binaryTail loosest operation))⟩
  | .signed operator column =>
    let signed := Measured.unary operator read column
    ⟨false, .unlessTooHigh signed column (.answer (.ok signed))⟩
  | .marks => ⟨false, .proceed (.postfixTail read)⟩
  | .closing =>
    if token.kind = .symbol .rightParen then ⟨true, .answer (.ok read)⟩
    else ⟨false, .fault token.column .expectedClosing⟩

/-- The next move of a function at a token: a fault of the call is its own. -/
def resume (token : Token) (pending : Pending) : Answer → Move
  | .ok read => nextMove token read pending
  | .error fault => ⟨false, .answer (.error fault)⟩

/-! ## Configurations -/

/-- A function that waits: what it has still to do, and the state that its part began in. -/
structure Frame where
  pending : Pending
  caller : ParserState
deriving DecidableEq, Repr

/-- What the machine is about: a call that has not begun, or an answer for the function on top of
the stack. -/
inductive Control where
  | call (task : Task)
  | answer (answer : Answer)
deriving DecidableEq, Repr

/-- The whole machine; `taken` holds the tokens taken since the start, the last one at the end. -/
structure Configuration where
  control : Control
  state : ParserState
  taken : List Token
  frames : List Frame
deriving DecidableEq, Repr

/-- A call of a function in a state, with nothing to do behind it. -/
def calling (task : Task) (state : ParserState) : Configuration :=
  ⟨.call task, state, [], []⟩

/-- The configuration behind its current token, which moves the position unless it is the last. -/
def Configuration.take (row : TokenStream) (config : Configuration) : Configuration :=
  { config with
    state := { config.state with
      position :=
        if config.state.position < row.later.length then config.state.position + 1
        else config.state.position }
    taken := config.taken ++ [row.tokenAt config.state.position] }

/-- The function that has its turn, the state that its part began in, the move it makes and the
configuration it makes it in, in which its own frame is off the stack. -/
structure Turn where
  task : Task
  caller : ParserState
  move : Move
  config : Configuration

/-- Whose turn it is: that of the function called, or of the one that an answer is for. When there
is no such function the machine is at its end. -/
def Configuration.turn? (row : TokenStream) (config : Configuration) : Option Turn :=
  let token := row.tokenAt config.state.position
  match config.control with
  | .call task => some ⟨task, config.state, firstMove token config.state.depth task, config⟩
  | .answer answer =>
    match config.frames with
    | [] => none
    | frame :: frames =>
      let state := { config.state with depth := config.state.depth - frame.pending.levels }
      some ⟨frame.pending.task, frame.caller, resume token frame.pending answer,
        { config with state := state, frames := frames }⟩

/-- The configuration in front of the action of a turn. -/
def Turn.moved (row : TokenStream) (turn : Turn) : Configuration :=
  if turn.move.takes then turn.config.take row else turn.config

/-- The configuration behind a turn. -/
def Turn.made (row : TokenStream) (turn : Turn) : Configuration :=
  let config := turn.moved row
  match turn.move.action with
  | .answer answer => { config with control := .answer answer }
  | .proceed task => { config with control := .call task }
  | .ask pending task =>
    { config with
      control := .call task
      state := { config.state with depth := config.state.depth + pending.levels }
      frames := ⟨pending, turn.caller⟩ :: config.frames }

def step (row : TokenStream) (config : Configuration) : Option Configuration :=
  (config.turn? row).map (Turn.made row)

/-! ## Moving

A turn moves the position and notes the token; all else is left to its action. -/

section Moving

variable {row : TokenStream} {turn : Turn}

theorem depth_moved : (turn.moved row).state.depth = turn.config.state.depth := by
  unfold Turn.moved Configuration.take
  split <;> rfl

theorem position_le_moved : turn.config.state.position ≤ (turn.moved row).state.position := by
  unfold Turn.moved Configuration.take
  split
  · dsimp only
    split
    · exact Nat.le_succ _
    · exact Nat.le_refl _
  · exact Nat.le_refl _

theorem frames_moved : (turn.moved row).frames = turn.config.frames := by
  unfold Turn.moved Configuration.take
  split <;> rfl

end Moving

end Calls

end CompilerFront.Expr
