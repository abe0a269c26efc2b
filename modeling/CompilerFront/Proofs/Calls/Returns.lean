import CompilerFront.Proofs.Calls.Machine

/-!
Contract: what the machine of calls comes to.

Owns:
- `Comes`, by which the machine comes to answer from a configuration, on the level and with the
  stack that it is given;
- `Returns` and `Follows`, by which a call and a move do so whatever is below them on the stack,
  with one rule for each kind of move;
- `returns_of_reads`: a call answers what its function of the reader gives, faults included.

Does not own: what holds on the way there (`CompilerFront.Proofs.Calls.Descent`).
-/

namespace CompilerFront.Expr.Calls

open CompilerFront.Expr.Parser (Task Reads ReadOutcome Stops operatorAt prefixAt leaf?)
open Guarded (ParserState)
open Guarded.Parser (Stands operatorOf prefixOf)
open StateTransition (Reaches eval)

/-- From a configuration, the machine comes to answer an outcome at a depth and with a stack. What
is left behind what was read stands at the position then reached. -/
def Comes (row : TokenStream) (config : Configuration) (depth : Nat) (frames : List Frame)
    (outcome : ReadOutcome) : Prop :=
  ∃ position taken,
    Reaches (step row) config ⟨.answer (outcome.map Prod.fst), ⟨position, depth⟩, taken, frames⟩ ∧
      ∀ read rest, outcome = .ok (read, rest) → Stands row.toList position rest

/-- Wherever a stream stands, a call of the task at the depth comes to the outcome. -/
def Returns (row : TokenStream) (depth : Nat) (task : Task) (stream : TokenStream)
    (outcome : ReadOutcome) : Prop :=
  ∀ position taken frames, Stands row.toList position stream →
    Comes row ⟨.call task, ⟨position, depth⟩, taken, frames⟩ depth frames outcome

/-- Wherever a stream stands, a turn with the move comes to the outcome. -/
def Follows (row : TokenStream) (depth : Nat) (stream : TokenStream) (move : Move)
    (outcome : ReadOutcome) : Prop :=
  ∀ turn : Turn, turn.move = move → turn.config.state.depth = depth →
    Stands row.toList turn.config.state.position stream →
    Comes row (turn.made row) depth turn.config.frames outcome

/-- The stream behind the token that a move takes, if it takes one. -/
def behind (takes : Bool) (stream : TokenStream) : TokenStream :=
  if takes then stream.advance else stream

section Moves

variable {row stream rest : TokenStream} {depth : Nat} {task : Task} {outcome : ReadOutcome}
  {takes : Bool} {pending : Pending} {read : Measured} {fault : Located SyntaxFault}

/-! ## Tokens and positions -/

/-- What is shown of a later configuration holds of all that lead to it. -/
theorem Comes.of_reaches {config middle : Configuration} {frames : List Frame}
    (comes : Comes row middle depth frames outcome) (reaches : Reaches (step row) config middle) :
    Comes row config depth frames outcome := by
  obtain ⟨position, taken, reachesEnd, stands⟩ := comes
  exact ⟨position, taken, reaches.trans reachesEnd, stands⟩

theorem tokenAt_of_stands {position : Nat} (stands : Stands row.toList position stream) :
    row.tokenAt position = stream.current := by
  have length : row.later.length + 1 = position + stream.later.length + 1 := stands.length_eq
  have found : row.toList[position]? = some stream.current := by
    rw [← List.head?_drop, stands]
    rfl
  obtain ⟨inside, here⟩ := List.getElem?_eq_some_iff.mp found
  rw [← here]
  unfold TokenStream.tokenAt
  simp only [List.get_eq_getElem]
  congr 1
  omega

/-- Both readers stop at the last token: the position at the end of the row, the stream in its
`advance`. -/
theorem stands_take {config : Configuration}
    (stands : Stands row.toList config.state.position stream) :
    Stands row.toList (config.take row).state.position stream.advance := by
  have length : row.later.length + 1 = config.state.position + stream.later.length + 1 :=
    stands.length_eq
  unfold Configuration.take
  cases later : stream.later with
  | nil =>
    rw [later, List.length_nil] at length
    dsimp only
    rw [if_neg (by omega), TokenStream.advance, later]
    exact stands
  | cons next others =>
    rw [later, List.length_cons] at length
    dsimp only
    rw [if_pos (by omega), TokenStream.advance, later, Stands, ← List.drop_drop, stands,
      TokenStream.toList, later]
    rfl

/-- In front of its action, a turn has the depth and the stack that it began with, and stands where
its move leaves it. -/
theorem exists_moved {turn : Turn} {move : Move} (makes : turn.move = move)
    (depth_eq : turn.config.state.depth = depth)
    (stands : Stands row.toList turn.config.state.position stream) :
    ∃ position taken,
      turn.moved row = ⟨turn.config.control, ⟨position, depth⟩, taken, turn.config.frames⟩ ∧
        Stands row.toList position (behind move.takes stream) := by
  subst makes depth_eq
  unfold Turn.moved behind
  split
  · exact ⟨_, (turn.config.take row).taken, rfl, stands_take stands⟩
  · exact ⟨_, _, rfl, stands⟩

/-! ## Rules for moves -/

/-- It is enough to follow the first move of the function from wherever the stream stands. -/
theorem returns_of_firstMove
    (follows : Follows row depth stream (firstMove stream.current depth task) outcome) :
    Returns row depth task stream outcome := by
  intro position taken frames stands
  rw [← tokenAt_of_stands stands] at follows
  have comes := follows ⟨task, ⟨position, depth⟩, firstMove (row.tokenAt position) depth task,
    ⟨.call task, ⟨position, depth⟩, taken, frames⟩⟩ rfl rfl stands
  exact comes.of_reaches (.single rfl)

theorem follows_answer :
    Follows row depth stream ⟨takes, .answer (.ok read)⟩ (.ok (read, behind takes stream)) := by
  intro turn makes depth_eq stands
  obtain ⟨position, taken, moved, standsBehind⟩ := exists_moved makes depth_eq stands
  rw [Turn.made, moved, makes]
  refine ⟨position, taken, .refl, ?_⟩
  rintro _ _ ⟨⟩
  exact standsBehind

theorem follows_fault :
    Follows row depth stream ⟨takes, .answer (.error fault)⟩ (.error fault) := by
  intro turn makes depth_eq stands
  obtain ⟨position, taken, moved, -⟩ := exists_moved makes depth_eq stands
  rw [Turn.made, moved, makes]
  refine ⟨position, taken, .refl, ?_⟩
  rintro _ _ ⟨⟩

theorem follows_proceed (returns : Returns row depth task (behind takes stream) outcome) :
    Follows row depth stream ⟨takes, .proceed task⟩ outcome := by
  intro turn makes depth_eq stands
  obtain ⟨position, taken, moved, standsBehind⟩ := exists_moved makes depth_eq stands
  rw [Turn.made, moved, makes]
  exact returns position taken turn.config.frames standsBehind

/-- An answer gives the function on top of the stack its next turn, on its own level again. -/
theorem reaches_resume {position : Nat} {taken : List Token} {caller : ParserState}
    {frames : List Frame} {answer : Answer} :
    Reaches (step row)
      ⟨.answer answer, ⟨position, depth + pending.levels⟩, taken, ⟨pending, caller⟩ :: frames⟩
      (Turn.made row ⟨pending.task, caller, resume (row.tokenAt position) pending answer,
        ⟨.answer answer, ⟨position, depth⟩, taken, frames⟩⟩) := by
  apply Relation.ReflTransGen.single
  simp only [step, Configuration.turn?, Nat.add_sub_cancel, Option.map_some, Option.mem_def]

/-- The call that a function asks for reads something, with which the function goes on. -/
theorem follows_ask
    (returns : Returns row (depth + pending.levels) task (behind takes stream) (.ok (read, rest)))
    (follows : Follows row depth rest (nextMove rest.current read pending) outcome) :
    Follows row depth stream ⟨takes, .ask pending task⟩ outcome := by
  intro turn makes depth_eq stands
  obtain ⟨position, taken, moved, standsBehind⟩ := exists_moved makes depth_eq stands
  rw [Turn.made, moved, makes]
  obtain ⟨answered, takenThen, reaches, standsThen⟩ :=
    returns position taken (⟨pending, turn.caller⟩ :: turn.config.frames) standsBehind
  have standsRest := standsThen read rest rfl
  rw [← tokenAt_of_stands standsRest] at follows
  have comes := follows ⟨pending.task, turn.caller, _, ⟨.answer (.ok read), ⟨answered, depth⟩,
    takenThen, turn.config.frames⟩⟩ rfl rfl standsRest
  exact comes.of_reaches (reaches.trans reaches_resume)

/-- A fault of the call that a function asks for is its own. -/
theorem follows_ask_fault
    (returns : Returns row (depth + pending.levels) task (behind takes stream) (.error fault)) :
    Follows row depth stream ⟨takes, .ask pending task⟩ (.error fault) := by
  intro turn makes depth_eq stands
  obtain ⟨position, taken, moved, standsBehind⟩ := exists_moved makes depth_eq stands
  rw [Turn.made, moved, makes]
  obtain ⟨answered, takenThen, reaches, -⟩ :=
    returns position taken (⟨pending, turn.caller⟩ :: turn.config.frames) standsBehind
  refine ⟨answered, takenThen, reaches.trans reaches_resume, ?_⟩
  rintro _ _ ⟨⟩

/-! ## Rows of the table -/

theorem follows_unlessTooHigh {node : Measured} {column : Nat} {next : Action}
    (low : node.height ≤ nestingLimit) (follows : Follows row depth stream ⟨takes, next⟩ outcome) :
    Follows row depth stream ⟨takes, .unlessTooHigh node column next⟩ outcome := by
  rw [Action.unlessTooHigh, if_pos low]
  exact follows

theorem follows_tooHigh {node : Measured} {column : Nat} {next : Action}
    (high : ¬node.height ≤ nestingLimit) :
    Follows row depth stream ⟨takes, .unlessTooHigh node column next⟩
      (.error ⟨column, .tooDeep⟩) := by
  rw [Action.unlessTooHigh, if_neg high]
  exact follows_fault

theorem kind_of_atSymbol {symbol : Symbol} (isSymbol : stream.atSymbol symbol = true) :
    stream.current.kind = .symbol symbol :=
  beq_iff_eq.mp isSymbol

theorem kind_ne_of_atSymbol {symbol : Symbol} (elsewhere : stream.atSymbol symbol = false) :
    stream.current.kind ≠ .symbol symbol :=
  beq_eq_false_iff_ne.mp elsewhere

/-- A loop of binary operators stops where it sees no operator that is tight enough. -/
theorem firstMove_of_stops {loosest : Nat} (stops : Stops loosest stream) (left : Measured) :
    firstMove stream.current depth (.binaryTail loosest left) = ⟨false, .answer (.ok left)⟩ := by
  rw [firstMove]
  split
  · rfl
  · rename_i operator isOperator
    exact if_neg (Nat.not_le_of_lt (stops operator isOperator))

theorem firstMove_of_operatorAt {loosest : Nat} {operator : BinaryOperator}
    (isOperator : operatorAt stream = some operator) (tight : loosest ≤ operator.precedence)
    (left : Measured) :
    firstMove stream.current depth (.binaryTail loosest left) =
      ⟨true, .ask (.rightOperand loosest left operator stream.current.column)
        (.binary (operator.precedence + 1))⟩ := by
  have here : operatorOf stream.current = some operator := isOperator
  simp only [firstMove, here, tight, ↓reduceIte]

theorem firstMove_of_prefixAt {operator : UnaryOperator}
    (isSign : prefixAt stream = some operator) (inside : depth < nestingLimit) :
    firstMove stream.current depth .unary =
      ⟨true, .ask (.signed operator stream.current.column) .unary⟩ := by
  have here : prefixOf stream.current = some operator := isSign
  simp only [firstMove, here, inside, ↓reduceIte]

theorem firstMove_of_leftParen (isOpening : stream.atSymbol .leftParen = true) :
    firstMove stream.current depth .operand = ⟨true, .ask .closing .conditional⟩ := by
  rw [firstMove, Parser.leaf?_eq_none_of_atSymbol isOpening]
  exact if_pos (kind_of_atSymbol isOpening)

/-- A conditional expression whose first branch has been read is what its function goes on to. -/
theorem returns_behind_then {atQuestion : TokenStream} {condition thenBranch : Measured}
    (conditionReturns : Returns row depth (.binary 0) stream (.ok (condition, atQuestion)))
    (isQuestion : atQuestion.atSymbol .question = true)
    (thenReturns : Returns row depth .conditional atQuestion.advance (.ok (thenBranch, rest)))
    (follows : Follows row depth rest
      (nextMove rest.current thenBranch (.thenBranch condition atQuestion.current.column))
      outcome) :
    Returns row depth .conditionalBody stream outcome := by
  refine returns_of_firstMove (follows_ask conditionReturns ?_)
  rw [nextMove, if_pos (kind_of_atSymbol isQuestion)]
  exact follows_ask thenReturns follows

end Moves

/-! ## Every rule of the reader -/

/-- A call answers what its function of the reader gives, by induction on the rules. -/
theorem returns_of_reads (row : TokenStream) {depth : Nat} {task : Task} {stream : TokenStream}
    {outcome : ReadOutcome} (reads : Reads depth task stream outcome) :
    Returns row depth task stream outcome := by
  induction reads with
  | @enter _ _ outcome inside _ bodyReturns =>
    apply returns_of_firstMove
    rw [firstMove, if_pos inside]
    cases outcome with
    | ok => exact follows_ask bodyReturns follows_answer
    | error => exact follows_ask_fault bodyReturns
  | enterTooDeep full =>
    apply returns_of_firstMove
    rw [firstMove, if_neg full]
    exact follows_fault
  | conditionFault _ conditionReturns =>
    exact returns_of_firstMove (follows_ask_fault conditionReturns)
  | noQuestion _ elsewhere conditionReturns =>
    refine returns_of_firstMove (follows_ask conditionReturns ?_)
    rw [nextMove, if_neg (kind_ne_of_atSymbol elsewhere)]
    exact follows_answer
  | thenFault _ isQuestion _ conditionReturns thenReturns =>
    refine returns_of_firstMove (follows_ask conditionReturns ?_)
    rw [nextMove, if_pos (kind_of_atSymbol isQuestion)]
    exact follows_ask_fault thenReturns
  | noColon _ isQuestion _ elsewhere conditionReturns thenReturns =>
    refine returns_behind_then conditionReturns isQuestion thenReturns ?_
    rw [nextMove, if_neg (kind_ne_of_atSymbol elsewhere)]
    exact follows_fault
  | elseFault _ isQuestion _ isColon _ conditionReturns thenReturns elseReturns =>
    refine returns_behind_then conditionReturns isQuestion thenReturns ?_
    rw [nextMove, if_pos (kind_of_atSymbol isColon)]
    exact follows_ask_fault elseReturns
  | choice _ isQuestion _ isColon _ low conditionReturns thenReturns elseReturns =>
    refine returns_behind_then conditionReturns isQuestion thenReturns ?_
    rw [nextMove, if_pos (kind_of_atSymbol isColon)]
    exact follows_ask elseReturns (follows_unlessTooHigh low follows_answer)
  | choiceTooHigh _ isQuestion _ isColon _ high conditionReturns thenReturns elseReturns =>
    refine returns_behind_then conditionReturns isQuestion thenReturns ?_
    rw [nextMove, if_pos (kind_of_atSymbol isColon)]
    exact follows_ask elseReturns (follows_tooHigh high)
  | leftFault _ leftReturns => exact returns_of_firstMove (follows_ask_fault leftReturns)
  | operands _ _ leftReturns tailReturns =>
    exact returns_of_firstMove (follows_ask leftReturns (follows_proceed tailReturns))
  | stop stops =>
    apply returns_of_firstMove
    rw [firstMove_of_stops stops]
    exact follows_answer
  | rightFault isOperator tight _ rightReturns =>
    apply returns_of_firstMove
    rw [firstMove_of_operatorAt isOperator tight]
    exact follows_ask_fault rightReturns
  | operation isOperator tight _ low _ rightReturns tailReturns =>
    apply returns_of_firstMove
    rw [firstMove_of_operatorAt isOperator tight]
    exact follows_ask rightReturns (follows_unlessTooHigh low (follows_proceed tailReturns))
  | operationTooHigh isOperator tight _ high rightReturns =>
    apply returns_of_firstMove
    rw [firstMove_of_operatorAt isOperator tight]
    exact follows_ask rightReturns (follows_tooHigh high)
  | @unsigned _ stream _ noSign _ innerReturns =>
    have here : prefixOf stream.current = none := noSign
    apply returns_of_firstMove
    rw [firstMove, here]
    exact follows_proceed innerReturns
  | @signTooDeep _ stream operator isSign full =>
    have here : prefixOf stream.current = some operator := isSign
    apply returns_of_firstMove
    simp only [firstMove, here, full, ↓reduceIte]
    exact follows_fault
  | signedFault isSign inside _ operandReturns =>
    apply returns_of_firstMove
    rw [firstMove_of_prefixAt isSign inside]
    exact follows_ask_fault operandReturns
  | signed isSign inside _ low operandReturns =>
    apply returns_of_firstMove
    rw [firstMove_of_prefixAt isSign inside]
    exact follows_ask operandReturns (follows_unlessTooHigh low follows_answer)
  | signedTooHigh isSign inside _ high operandReturns =>
    apply returns_of_firstMove
    rw [firstMove_of_prefixAt isSign inside]
    exact follows_ask operandReturns (follows_tooHigh high)
  | operandFault _ operandReturns => exact returns_of_firstMove (follows_ask_fault operandReturns)
  | postfixed _ _ operandReturns tailReturns =>
    exact returns_of_firstMove (follows_ask operandReturns (follows_proceed tailReturns))
  | noMark elsewhere =>
    apply returns_of_firstMove
    rw [firstMove, if_neg (kind_ne_of_atSymbol elsewhere)]
    exact follows_answer
  | mark isMark low _ tailReturns =>
    apply returns_of_firstMove
    rw [firstMove, if_pos (kind_of_atSymbol isMark)]
    exact follows_unlessTooHigh low (follows_proceed tailReturns)
  | markTooHigh isMark high =>
    apply returns_of_firstMove
    rw [firstMove, if_pos (kind_of_atSymbol isMark)]
    exact follows_tooHigh high
  | leaf isLeaf =>
    apply returns_of_firstMove
    rw [firstMove, isLeaf]
    exact follows_answer
  | innerFault isOpening _ innerReturns =>
    apply returns_of_firstMove
    rw [firstMove_of_leftParen isOpening]
    exact follows_ask_fault innerReturns
  | noClosing isOpening _ elsewhere innerReturns =>
    apply returns_of_firstMove
    rw [firstMove_of_leftParen isOpening]
    refine follows_ask innerReturns ?_
    rw [nextMove, if_neg (kind_ne_of_atSymbol elsewhere)]
    exact follows_fault
  | parenthesized isOpening _ isClosing innerReturns =>
    apply returns_of_firstMove
    rw [firstMove_of_leftParen isOpening]
    refine follows_ask innerReturns ?_
    rw [nextMove, if_pos (kind_of_atSymbol isClosing)]
    exact follows_answer
  | noOperand noLeaf elsewhere =>
    apply returns_of_firstMove
    rw [firstMove, noLeaf]
    dsimp only
    rw [if_neg (kind_ne_of_atSymbol elsewhere)]
    exact follows_fault

/-! ## Ends -/

/-- A call at a stream ends with the answer of its function, on the level it began on. -/
theorem exists_eval {row stream : TokenStream} (task : Task) (start : ParserState)
    (stands : Stands row.toList start.position stream) :
    ∃ position taken,
      eval (step row) (calling task start) =
          Part.some ⟨.answer ((task.read start.depth stream).map Prod.fst),
            ⟨position, start.depth⟩, taken, []⟩ ∧
      ∀ read rest, task.read start.depth stream = .ok (read, rest) →
        Stands row.toList position rest := by
  obtain ⟨position, taken, reaches, standsRest⟩ :=
    returns_of_reads row (Parser.reads_read start.depth task stream) start.position [] [] stands
  exact ⟨position, taken, Part.eq_some_iff.mpr (StateTransition.mem_eval.mpr ⟨reaches, rfl⟩),
    standsRest⟩

end CompilerFront.Expr.Calls
