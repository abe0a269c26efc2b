import CompilerFront.Expr.Parser
import CompilerFront.Proofs.Guarded.Machine

/-!
Contract: the parser as a program that moves a position over the tokens and counts its depth.

Owns:
- `parse` and the programs it is made of, every look at a token, every change of a counter and every
  recursion guarded;
- `Stands`, which ties a position to the stream behind it, and the single steps.

Does not own: what the programs come to (`CompilerFront.Proofs.Guarded.Reading`). The loops may run
forever. The recursion may not: the programs of a level are made of those of the level below it, and
below the last level there are none.
-/

namespace CompilerFront.Expr.Guarded

open Machine (andThen orEnd ofChecked)

abbrev Parses (Result : Type) : Type := Except (Located SyntaxFault) Result

instance {Result : Type} : Nonempty (Parses Result) := ⟨.error ⟨0, .expectedEnd⟩⟩

/-- The position of the next token and the number of levels that have been entered and not left. -/
structure ParserState where
  position : Nat
  depth : Nat
deriving DecidableEq, Repr, Inhabited

def decrement : Nat → Except Breach Nat
  | 0 => .error .underflow
  | count + 1 => .ok count

/-- A counter plus one, which must stay below a limit. -/
def increment (limit count : Nat) : Except Breach Nat :=
  if count + 1 < limit then .ok (count + 1) else .error .overflow

/-- The first number that a counter of the size of an address cannot hold. -/
def addressLimit : Nat := 18446744073709551616

/-- The first number that a counter of one byte cannot hold. -/
def byteLimit : Nat := 256

namespace Parser

variable (tokens : List Token)

/-! ## Programs -/

/-- The current token: the one at the position, but at most the last one. -/
def peek : Machine ParserState Token := do
  let state ← get
  let last ← ofChecked (decrement tokens.length)
  match tokens[min state.position last]? with
  | some token => return token
  | none => throw .elementMissing

/-- The current token, behind which the position moves unless it is the last one. -/
def bump : Machine ParserState Token := do
  let token ← peek tokens
  let state ← get
  let last ← ofChecked (decrement tokens.length)
  set (if state.position < last then { state with position := state.position + 1 } else state)
  return token

def atSymbol (symbol : Symbol) : Machine ParserState Bool := do
  let token ← peek tokens
  return token.kind == .symbol symbol

def expectSymbol (symbol : Symbol) (cause : SyntaxFault) : Machine ParserState (Parses Unit) := do
  let found ← atSymbol tokens symbol
  if found then
    let _ ← bump tokens
    return .ok ()
  else
    let token ← peek tokens
    return .error ⟨token.column, cause⟩

/-- Enters a level, if there is one left. -/
def enter : Machine ParserState (Parses Unit) := do
  let state ← get
  if nestingLimit ≤ state.depth then
    let token ← peek tokens
    return .error ⟨token.column, .tooDeep⟩
  else
    let depth ← ofChecked (increment addressLimit state.depth)
    set { state with depth := depth }
    return .ok ()

def leave : Machine ParserState Unit := do
  let state ← get
  let depth ← ofChecked (decrement state.depth)
  set { state with depth := depth }

def nodeHeight (column childHeight : Nat) : Machine ParserState (Parses Nat) := do
  let height ← ofChecked (increment addressLimit childHeight)
  if nestingLimit < height then return .error ⟨column, .tooDeep⟩
  else return .ok height

def operatorOf (token : Token) : Option BinaryOperator :=
  match token.kind with
  | .symbol symbol => BinaryOperator.ofSymbol? symbol
  | _ => none

def prefixOf (token : Token) : Option UnaryOperator :=
  match token.kind with
  | .symbol symbol => UnaryOperator.ofSymbol? symbol
  | _ => none

abbrev Reader : Type := Machine ParserState (Parses Measured)

/-- A recursion that no level is left for. -/
def exhausted : Reader := throw .recursion

/-- The two branches of a conditional expression, read by one program. -/
def branches (branch : Reader) (condition : Measured) (column : Nat) : Reader :=
  andThen branch fun thenBranch =>
  andThen (expectSymbol tokens .colon .expectedColon) fun _ =>
  andThen branch fun elseBranch =>
  andThen (nodeHeight column
      (max (max condition.height thenBranch.height) elseBranch.height)) fun height =>
    return .ok ⟨.conditional condition.tree thenBranch.tree elseBranch.tree column, height⟩

/-- Takes one operator that is no looser than asked for, and the operand on its right. -/
def binaryTurn (tighter : Nat → Reader) (loosest : Nat) (left : Measured) :
    Machine ParserState (Measured ⊕ Parses Measured) := do
  let token ← peek tokens
  match operatorOf token with
  | none => return .inr (.ok left)
  | some operator =>
    if operator.precedence < loosest then return .inr (.ok left)
    else
      let sign ← bump tokens
      let next ← ofChecked (increment byteLimit operator.precedence)
      orEnd (tighter next) fun right =>
      orEnd (nodeHeight sign.column (max left.height right.height)) fun height =>
        return .inl ⟨.binary operator left.tree right.tree sign.column, height⟩

/-- Operands joined by operators. The operand on the right of one is joined by tighter ones, of
which there are none above eleven. -/
def binary (operand : Reader) (loosest : Nat) : Reader :=
  andThen operand fun left =>
    repeatM (binaryTurn tokens
      (fun next => if _tighter : loosest < next ∧ next ≤ 11 then binary operand next else exhausted)
      loosest) left
termination_by 11 - loosest

/-- The right operand of an operator that is no looser than asked for. -/
def tighterThan (operand : Reader) (loosest next : Nat) : Reader :=
  if loosest < next ∧ next ≤ 11 then binary tokens operand next else exhausted

def binaryTail (operand : Reader) (loosest : Nat) (left : Measured) : Reader :=
  repeatM (binaryTurn tokens (tighterThan tokens operand loosest) loosest) left

/-- An expression on a level already entered, of operands and branches. -/
def conditionalBody (operand branch : Reader) : Reader :=
  andThen (binary tokens operand 0) fun condition => do
    let found ← atSymbol tokens .question
    if found then
      let question ← bump tokens
      branches tokens branch condition question.column
    else return .ok condition

/-- An expression on a level of its own, which is left whether or not it can be read. -/
def conditional (body : Reader) : Reader :=
  andThen (enter tokens) fun _ => do
    let parsed ← body
    leave
    return parsed

def operand (inside : Reader) : Reader := do
  let token ← bump tokens
  match Expr.Parser.leaf? token.kind with
  | some tree => return .ok ⟨tree, 1⟩
  | none =>
    if token.kind = .symbol .leftParen then
      andThen inside fun inner =>
      andThen (expectSymbol tokens .rightParen .expectedClosing) fun _ => return .ok inner
    else return .error ⟨token.column, Expr.Parser.operandFault token.kind⟩

def postfixTurn (inner : Measured) : Machine ParserState (Measured ⊕ Parses Measured) := do
  let found ← atSymbol tokens .bangBang
  if found then
    let mark ← bump tokens
    orEnd (nodeHeight mark.column inner.height) fun height =>
      return .inl ⟨.unary .nonNull inner.tree mark.column, height⟩
  else return .inr (.ok inner)

def postfixTail (inner : Measured) : Reader := repeatM (postfixTurn tokens) inner

def postfixed (inside : Reader) : Reader :=
  andThen (operand tokens inside) fun inner => postfixTail tokens inner

/-- An operand with the operators before it; the one behind an operator is on a level of its own. -/
def unary (inside deeper : Reader) : Reader := do
  let token ← peek tokens
  match prefixOf token with
  | none => postfixed tokens inside
  | some operator =>
    andThen (enter tokens) fun _ => do
      let sign ← bump tokens
      let inner ← deeper
      leave
      andThen (pure inner) fun operand =>
      andThen (nodeHeight sign.column operand.height) fun height =>
        return .ok ⟨.unary operator operand.tree sign.column, height⟩

/-- The programs of a level that call themselves on the next one. -/
structure Level where
  conditional : Reader
  unary : Reader

def Level.above (deeper : Level) : Level where
  conditional := Parser.conditional tokens (conditionalBody tokens deeper.unary deeper.conditional)
  unary := Parser.unary tokens
    (Parser.conditional tokens (conditionalBody tokens deeper.unary deeper.conditional))
    deeper.unary

/-- A level with a number of levels below it. -/
def levels : Nat → Level
  | 0 => Level.above tokens ⟨exhausted, exhausted⟩
  | count + 1 => (levels count).above tokens

/-- The one expression that spans all tokens. -/
def parse : Machine ParserState (Parses Tree) :=
  andThen (levels tokens nestingLimit).conditional fun parsed => do
    let token ← peek tokens
    if token.kind ≠ .endOfText then return .error ⟨token.column, .expectedEnd⟩
    else return .ok parsed.tree

/-! ## The position and the stream behind it -/

/-- `Stands tokens position stream`: the stream is what the tokens hold from the position on. -/
def Stands (tokens : List Token) (position : Nat) (stream : TokenStream) : Prop :=
  tokens.drop position = stream.toList

section Steps

variable {tokens : List Token} {position depth : Nat} {stream : TokenStream}

theorem Stands.length_eq (stands : Stands tokens position stream) :
    tokens.length = position + stream.later.length + 1 := by
  have split := congrArg List.length stands
  rw [List.length_drop, TokenStream.toList, List.length_cons] at split
  omega

theorem runs_decrement (stands : Stands tokens position stream) {state : ParserState} :
    Runs (ofChecked (decrement tokens.length)) state (position + stream.later.length) state := by
  rw [stands.length_eq]
  exact runs_pure _

/-- The index is in bounds because the position of the parser never passes the last token. -/
theorem runs_peek (stands : Stands tokens position stream) :
    Runs (peek tokens) ⟨position, depth⟩ stream.current ⟨position, depth⟩ := by
  refine runs_bind runs_get (runs_bind (runs_decrement stands) ?_)
  have found : tokens[min position (position + stream.later.length)]? = some stream.current := by
    rw [Nat.min_eq_left (Nat.le_add_right _ _), ← List.head?_drop, stands]
    rfl
  rw [found]
  exact runs_pure _

/-- Without a token there is nothing to look at. -/
example : (peek []).run ⟨0, 0⟩ = throw .underflow := rfl

/-- At the last token the position stays, as the stream does. -/
theorem runs_bump (stands : Stands tokens position stream) (depth : Nat) :
    ∃ after, Stands tokens after stream.advance ∧
      Runs (bump tokens) ⟨position, depth⟩ stream.current ⟨after, depth⟩ := by
  have runs : Runs (bump tokens) ⟨position, depth⟩ stream.current
      (if position < position + stream.later.length then ⟨position + 1, depth⟩
        else ⟨position, depth⟩) :=
    runs_bind (runs_peek stands) (runs_bind runs_get (runs_bind (runs_decrement stands)
      (runs_bind runs_set (runs_pure _))))
  cases later : stream.later with
  | nil =>
    rw [later, List.length_nil, Nat.add_zero, if_neg (Nat.lt_irrefl _)] at runs
    refine ⟨position, ?_, runs⟩
    rw [TokenStream.advance, later]
    exact stands
  | cons next others =>
    rw [later, List.length_cons, if_pos (by omega)] at runs
    refine ⟨position + 1, ?_, runs⟩
    rw [TokenStream.advance, later, Stands, ← List.drop_drop, stands, TokenStream.toList, later]
    rfl

theorem runs_atSymbol (stands : Stands tokens position stream) (symbol : Symbol) :
    Runs (atSymbol tokens symbol) ⟨position, depth⟩ (stream.atSymbol symbol) ⟨position, depth⟩ :=
  runs_bind (runs_peek stands) (runs_pure _)

theorem runs_expectSymbol (stands : Stands tokens position stream) {symbol : Symbol}
    (found : stream.atSymbol symbol = true) (cause : SyntaxFault) (depth : Nat) :
    ∃ after, Stands tokens after stream.advance ∧
      Runs (expectSymbol tokens symbol cause) ⟨position, depth⟩ (.ok ()) ⟨after, depth⟩ := by
  obtain ⟨after, standsAfter, bumped⟩ := runs_bump stands depth
  refine ⟨after, standsAfter, runs_bind (runs_atSymbol stands symbol) ?_⟩
  rw [if_pos found]
  exact runs_bind bumped (runs_pure _)

theorem runs_expectSymbol_fault (stands : Stands tokens position stream) {symbol : Symbol}
    (elsewhere : stream.atSymbol symbol = false) (cause : SyntaxFault) :
    Runs (expectSymbol tokens symbol cause) ⟨position, depth⟩
      (.error ⟨stream.current.column, cause⟩) ⟨position, depth⟩ := by
  refine runs_bind (runs_atSymbol stands symbol) ?_
  rw [elsewhere]
  exact runs_bind (runs_peek stands) (runs_pure _)

theorem runs_enter (room : depth < nestingLimit) :
    Runs (enter tokens) ⟨position, depth⟩ (.ok ()) ⟨position, depth + 1⟩ := by
  have small : depth + 1 < addressLimit := by
    unfold nestingLimit at room
    unfold addressLimit
    omega
  refine runs_bind runs_get ?_
  rw [if_neg (Nat.not_le_of_lt room)]
  exact runs_bind (runs_ofChecked (if_pos small)) (runs_bind runs_set (runs_pure _))

theorem runs_enter_fault (stands : Stands tokens position stream) (full : ¬depth < nestingLimit) :
    Runs (enter tokens) ⟨position, depth⟩ (.error ⟨stream.current.column, .tooDeep⟩)
      ⟨position, depth⟩ := by
  refine runs_bind runs_get ?_
  rw [if_pos (Nat.le_of_not_lt full)]
  exact runs_bind (runs_peek stands) (runs_pure _)

theorem runs_leave : Runs leave ⟨position, depth + 1⟩ () ⟨position, depth⟩ :=
  runs_bind runs_get (runs_bind (runs_ofChecked rfl) runs_set)

theorem runs_increment_height {height : Nat} (low : height ≤ nestingLimit) {state : ParserState} :
    Runs (ofChecked (increment addressLimit height)) state (height + 1) state := by
  refine runs_ofChecked (if_pos ?_)
  unfold nestingLimit at low
  unfold addressLimit
  omega

theorem runs_nodeHeight {height : Nat} (low : height + 1 ≤ nestingLimit) (column : Nat)
    {state : ParserState} : Runs (nodeHeight column height) state (.ok (height + 1)) state := by
  refine runs_bind (runs_increment_height (Nat.le_of_succ_le low)) ?_
  rw [if_neg (Nat.not_lt_of_le low)]
  exact runs_pure _

/-- The height is raised before it is compared, which a child of any legal height allows for. -/
theorem runs_nodeHeight_fault {height : Nat} (child : height ≤ nestingLimit)
    (high : ¬height + 1 ≤ nestingLimit) (column : Nat) {state : ParserState} :
    Runs (nodeHeight column height) state (.error ⟨column, .tooDeep⟩) state := by
  refine runs_bind (runs_increment_height child) ?_
  rw [if_pos (Nat.lt_of_not_le high)]
  exact runs_pure _

end Steps

end Parser

end CompilerFront.Expr.Guarded
