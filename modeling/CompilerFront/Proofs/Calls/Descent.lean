import Mathlib.Data.Prod.Lex
import CompilerFront.Proofs.Calls.Machine

/-!
Contract: what every step of the machine of calls keeps, and what every call lowers.

Owns:
- `weight`, by which calls are compared: the tokens left, the levels left, the rank of the function
  and the height that its left operand may still gain, in lexicographic order;
- `Move.Lawful`, the law that the whole table of moves keeps to;
- `Nested`, by which the position and the depth follow from the frames on the stack;
- `invariant_of_reaches` and `Turn.Fits.lower`: the depth never passes its limit, and every call
  weighs less than the function that makes it.

The tokens left never grow in number. At the last token, where the position stands still, the
levels, the ranks and the heights carry the descent alone.
-/

namespace CompilerFront.Expr.Calls

open CompilerFront.Expr.Parser (Task leaf?)
open Guarded (ParserState)
open Guarded.Parser (operatorOf prefixOf)
open StateTransition (Reaches)

/-! ## Weights -/

/-- Functions that call each other at one position and on one level, from the last to the first. -/
def rank : Task → Nat
  | .conditional => 0
  | .operand => 1
  | .postfixTail _ => 2
  | .postfixed => 3
  | .unary => 4
  | .binaryTail loosest _ => 2 * (12 - loosest) + 5
  | .binary loosest => 2 * (12 - loosest) + 6
  | .conditionalBody => 31

/-- What the operand on the left of a loop may still gain in height. -/
def room : Task → Nat
  | .binaryTail _ left => nestingLimit - left.height
  | .postfixTail inner => nestingLimit - inner.height
  | _ => 0

/-- The weight of a call at a position and a depth. -/
def weight (row : TokenStream) (task : Task) (state : ParserState) : ℕ ×ₗ ℕ ×ₗ ℕ ×ₗ ℕ :=
  toLex (row.later.length - state.position,
    toLex (nestingLimit - state.depth, toLex (rank task, room task)))

/-- `Below next task`: the first call is lower where it stands on the level and at the position of
the other one. -/
def Below (next task : Task) : Prop :=
  rank next < rank task ∨ rank next = rank task ∧ room next < room task

/-! ### Ranks -/

theorem rank_binary_lt (loosest : Nat) : rank (.binary loosest) < rank .conditionalBody := by
  simp only [rank]
  omega

theorem rank_branch_lt : rank .conditional < rank .conditionalBody := by decide

theorem rank_unary_lt (loosest : Nat) : rank .unary < rank (.binary loosest) := by
  simp only [rank]
  omega

theorem rank_binaryTail_lt (loosest : Nat) (left : Measured) :
    rank (.binaryTail loosest left) < rank (.binary loosest) := by
  simp only [rank]
  omega

/-- The right operand of an operator is joined by tighter operators only. -/
theorem rank_rightOperand_lt {loosest : Nat} {operator : BinaryOperator} (left : Measured)
    (tight : loosest ≤ operator.precedence) :
    rank (.binary (operator.precedence + 1)) < rank (.binaryTail loosest left) := by
  have atMostTen := operator.precedence_le
  simp only [rank]
  omega

theorem rank_postfixTail_lt (inner : Measured) : rank (.postfixTail inner) < rank .postfixed :=
  Nat.lt_succ_self 2

/-! ### Room

A turn of a loop makes its operand higher. -/

/-- The joined operand is higher than its left part, and the limit on heights bounds the turns. -/
theorem room_binary_lt {loosest column : Nat} {operator : BinaryOperator} {left right : Measured}
    (low : (Measured.binary operator left right column).height ≤ nestingLimit) :
    room (.binaryTail loosest (.binary operator left right column)) <
      room (.binaryTail loosest left) := by
  simp only [Measured.binary, room] at low ⊢
  omega

theorem room_unary_lt {column : Nat} {operator : UnaryOperator} {inner : Measured}
    (low : (Measured.unary operator inner column).height ≤ nestingLimit) :
    room (.postfixTail (.unary operator inner column)) < room (.postfixTail inner) := by
  simp only [Measured.unary, room] at low ⊢
  omega

/-! ### Weights of calls -/

section Weights

variable {row : TokenStream} {next task : Task} {state after : ParserState}

/-- On one level, a call to a function below weighs less however far the position has moved. -/
theorem weight_lt_of_below (position_le : state.position ≤ after.position)
    (depth_eq : after.depth = state.depth) (below : Below next task) :
    weight row next after < weight row task state := by
  unfold Below at below
  simp only [weight, Prod.Lex.toLex_lt_toLex, depth_eq, true_and]
  omega

/-- A level entered makes up for the rise in rank from `.conditional` to its body. -/
theorem weight_lt_of_enter (position_le : state.position ≤ after.position)
    (inside : state.depth < nestingLimit) (depth_eq : after.depth = state.depth + 1) :
    weight row next after < weight row task state := by
  simp only [weight, Prod.Lex.toLex_lt_toLex, depth_eq]
  omega

end Weights

/-! ## The law of the table -/

/-- What a function at a depth may do: answer, go on as a function below it, or wait as itself for a
call that is below it or on a level newly entered. -/
inductive Action.Descends (task : Task) (depth : Nat) : Action → Prop where
  | answer {answer : Answer} : Descends task depth (.answer answer)
  | proceed {next : Task} (below : Below next task) : Descends task depth (.proceed next)
  | ask {pending : Pending} {next : Task} (waits : pending.task = task)
      (none : pending.levels = 0) (below : Below next task) :
      Descends task depth (.ask pending next)
  | enter {pending : Pending} {next : Task} (waits : pending.task = task)
      (one : pending.levels = 1) (inside : depth < nestingLimit) :
      Descends task depth (.ask pending next)

/-- The law of a move: its action descends, and the end of the text is taken for a fault only. -/
structure Move.Lawful (task : Task) (token : Token) (depth : Nat) (move : Move) : Prop where
  descends : move.action.Descends task depth
  fails_at_end : token.kind = .endOfText → move.takes = true →
    ∃ fault, move.action = .answer (.error fault)

section Laws

variable {task : Task} {token : Token} {depth column : Nat} {node : Measured} {next : Action}

/-- A node that is too high ends in an answer, which needs no descent. -/
theorem descends_unlessTooHigh (descends : node.height ≤ nestingLimit → next.Descends task depth) :
    (Action.unlessTooHigh node column next).Descends task depth := by
  unfold Action.unlessTooHigh
  split
  · rename_i low
    exact descends low
  · exact .answer

theorem lawful_look {action : Action} (descends : action.Descends task depth) :
    Move.Lawful task token depth ⟨false, action⟩ :=
  ⟨descends, fun _ takes => nomatch takes⟩

theorem lawful_take {action : Action} (other : token.kind ≠ .endOfText)
    (descends : action.Descends task depth) : Move.Lawful task token depth ⟨true, action⟩ :=
  ⟨descends, fun isEnd => absurd isEnd other⟩

theorem lawful_fault {takes : Bool} {cause : SyntaxFault} :
    Move.Lawful task token depth ⟨takes, .fault column cause⟩ :=
  ⟨.answer, fun _ _ => ⟨_, rfl⟩⟩

theorem ne_endOfText_of_symbol {symbol : Symbol} (isSymbol : token.kind = .symbol symbol) :
    token.kind ≠ .endOfText := by
  rw [isSymbol]
  nofun

theorem ne_endOfText_of_operatorOf {operator : BinaryOperator}
    (isOperator : operatorOf token = some operator) : token.kind ≠ .endOfText := by
  intro isEnd
  rw [operatorOf, isEnd] at isOperator
  cases isOperator

theorem ne_endOfText_of_prefixOf {operator : UnaryOperator}
    (isSign : prefixOf token = some operator) : token.kind ≠ .endOfText := by
  intro isEnd
  rw [prefixOf, isEnd] at isSign
  cases isSign

theorem ne_endOfText_of_leaf {tree : Tree} (isLeaf : leaf? token.kind = some tree) :
    token.kind ≠ .endOfText := by
  intro isEnd
  rw [isEnd] at isLeaf
  cases isLeaf

end Laws

/-- One case for each function. -/
theorem firstMove_lawful (token : Token) (depth : Nat) (task : Task) :
    (firstMove token depth task).Lawful task token depth := by
  cases task with
  | conditional =>
    rw [firstMove]
    split
    · rename_i inside
      exact lawful_look (.enter rfl rfl inside)
    · exact lawful_fault
  | conditionalBody => exact lawful_look (.ask rfl rfl (.inl (rank_binary_lt 0)))
  | binary loosest => exact lawful_look (.ask rfl rfl (.inl (rank_unary_lt loosest)))
  | binaryTail loosest left =>
    rw [firstMove]
    split
    · exact lawful_look .answer
    rename_i operator isOperator
    split
    · rename_i tight
      exact lawful_take (ne_endOfText_of_operatorOf isOperator)
        (.ask rfl rfl (.inl (rank_rightOperand_lt left tight)))
    · exact lawful_look .answer
  | unary =>
    rw [firstMove]
    split
    · exact lawful_look (.proceed (.inl (by decide)))
    rename_i operator isSign
    split
    · rename_i inside
      exact lawful_take (ne_endOfText_of_prefixOf isSign) (.enter rfl rfl inside)
    · exact lawful_fault
  | postfixed => exact lawful_look (.ask rfl rfl (.inl (by decide)))
  | postfixTail inner =>
    rw [firstMove]
    split
    · rename_i isMark
      refine lawful_take (ne_endOfText_of_symbol isMark) (descends_unlessTooHigh fun low => ?_)
      exact .proceed (.inr ⟨rfl, room_unary_lt low⟩)
    · exact lawful_look .answer
  | operand =>
    rw [firstMove]
    split
    · rename_i tree isLeaf
      exact lawful_take (ne_endOfText_of_leaf isLeaf) .answer
    split
    · rename_i isOpening
      exact lawful_take (ne_endOfText_of_symbol isOpening) (.ask rfl rfl (.inl (by decide)))
    · exact lawful_fault

/-- One case for each way to wait. Here no level is entered. -/
theorem nextMove_lawful (token : Token) (depth : Nat) (read : Measured) (pending : Pending) :
    (nextMove token read pending).Lawful pending.task token depth := by
  cases pending with
  | leave => exact lawful_look .answer
  | condition =>
    rw [nextMove]
    split
    · rename_i isQuestion
      exact lawful_take (ne_endOfText_of_symbol isQuestion) (.ask rfl rfl (.inl rank_branch_lt))
    · exact lawful_look .answer
  | thenBranch condition column =>
    rw [nextMove]
    split
    · rename_i isColon
      exact lawful_take (ne_endOfText_of_symbol isColon) (.ask rfl rfl (.inl rank_branch_lt))
    · exact lawful_fault
  | elseBranch condition thenBranch column =>
    exact lawful_look (descends_unlessTooHigh fun _ => .answer)
  | leftOperand loosest => exact lawful_look (.proceed (.inl (rank_binaryTail_lt loosest read)))
  | rightOperand loosest left operator column =>
    refine lawful_look (descends_unlessTooHigh fun low => ?_)
    exact .proceed (.inr ⟨rfl, room_binary_lt low⟩)
  | signed operator column => exact lawful_look (descends_unlessTooHigh fun _ => .answer)
  | marks => exact lawful_look (.proceed (.inl (rank_postfixTail_lt read)))
  | closing =>
    rw [nextMove]
    split
    · rename_i isClosing
      exact lawful_take (ne_endOfText_of_symbol isClosing) .answer
    · exact lawful_fault

theorem resume_lawful (token : Token) (depth : Nat) (pending : Pending) (answer : Answer) :
    (resume token pending answer).Lawful pending.task token depth := by
  cases answer with
  | ok read => exact nextMove_lawful token depth read pending
  | error => exact lawful_look .answer

/-! ## Turns -/

/-- Whose turn it is, by what the machine is about. -/
inductive HasTurn (row : TokenStream) : Configuration → Turn → Prop where
  | call {task : Task} {state : ParserState} {taken : List Token} {frames : List Frame} :
      HasTurn row ⟨.call task, state, taken, frames⟩
        ⟨task, state, firstMove (row.tokenAt state.position) state.depth task,
          ⟨.call task, state, taken, frames⟩⟩
  | answer {answer : Answer} {state : ParserState} {taken : List Token} {frame : Frame}
      {frames : List Frame} :
      HasTurn row ⟨.answer answer, state, taken, frame :: frames⟩
        ⟨frame.pending.task, frame.caller,
          resume (row.tokenAt state.position) frame.pending answer,
          ⟨.answer answer, { state with depth := state.depth - frame.pending.levels }, taken,
            frames⟩⟩

theorem hasTurn_of_turn? {row : TokenStream} {config : Configuration} {turn : Turn}
    (has : config.turn? row = some turn) : HasTurn row config turn := by
  obtain ⟨control, state, taken, frames⟩ := config
  cases control with
  | call task =>
    cases has
    exact .call
  | answer answer =>
    cases frames with
    | nil => cases has
    | cons frame frames =>
      cases has
      exact .answer

theorem HasTurn.lawful {row : TokenStream} {config : Configuration} {turn : Turn}
    (has : HasTurn row config turn) :
    turn.move.Lawful turn.task (row.tokenAt turn.config.state.position)
      turn.config.state.depth := by
  cases has with
  | call => exact firstMove_lawful _ _ _
  | answer => exact resume_lawful _ _ _ _

/-! ## Nesting -/

/-- `Nested state frames`: from the state down the stack, positions do not grow, and the depths
differ by the levels entered for the calls. -/
def Nested (state : ParserState) : List Frame → Prop
  | [] => True
  | frame :: frames =>
    frame.caller.position ≤ state.position ∧
      state.depth = frame.caller.depth + frame.pending.levels ∧ Nested frame.caller frames

/-- Moving to the right on one level keeps the stack nested: the frames below stay where they
are. -/
theorem Nested.move {state after : ParserState} {frames : List Frame} (nested : Nested state frames)
    (position_le : state.position ≤ after.position) (depth_eq : after.depth = state.depth) :
    Nested after frames := by
  cases frames with
  | nil => trivial
  | cons frame frames =>
    obtain ⟨before, levels, callerNested⟩ := nested
    exact ⟨Nat.le_trans before position_le, depth_eq.trans levels, callerNested⟩

/-- What holds of every configuration: the depth is within the limit, and the stack is nested. The
second part is what gives a function its own depth back when a call of it is answered. -/
structure Invariant (config : Configuration) : Prop where
  depth_le : config.state.depth ≤ nestingLimit
  nested : Nested config.state config.frames

/-- What holds of the turn in such a configuration: the function has its own depth again, stands no
further to the left than when its part began, and is nested itself. -/
structure Turn.Fits (turn : Turn) : Prop where
  depth_le : turn.caller.depth ≤ nestingLimit
  depth_eq : turn.config.state.depth = turn.caller.depth
  position_le : turn.caller.position ≤ turn.config.state.position
  nested : Nested turn.caller turn.config.frames

section Steps

variable {row : TokenStream} {config next : Configuration} {turn : Turn} {task : Task}

/-- A call has its depth already; an answer first gives back the levels of the frame it goes to. -/
theorem Invariant.fits (invariant : Invariant config) (has : HasTurn row config turn) :
    turn.Fits := by
  cases has with
  | call => exact ⟨invariant.depth_le, rfl, Nat.le_refl _, invariant.nested⟩
  | answer =>
    obtain ⟨depth_le, position_le, depth_eq, nested⟩ := invariant
    dsimp only at depth_le depth_eq
    refine ⟨?_, ?_, position_le, nested⟩
    · dsimp only
      omega
    · dsimp only
      omega

theorem Turn.Fits.caller_le_moved (fits : turn.Fits) :
    turn.caller.position ≤ (turn.moved row).state.position :=
  Nat.le_trans fits.position_le position_le_moved

theorem Turn.Fits.depth_moved (fits : turn.Fits) :
    (turn.moved row).state.depth = turn.caller.depth :=
  Calls.depth_moved.trans fits.depth_eq

theorem Turn.Fits.nested_moved (fits : turn.Fits) :
    Nested (turn.moved row).state (turn.moved row).frames := by
  rw [frames_moved]
  exact fits.nested.move fits.caller_le_moved fits.depth_moved

/-! ### One step -/

/-- Of the three actions only a call on a new level raises the depth, and that one is guarded. -/
theorem Turn.Fits.invariant (fits : turn.Fits)
    (descends : turn.move.action.Descends turn.task turn.caller.depth) :
    Invariant (turn.made row) := by
  have depth_le : (turn.moved row).state.depth ≤ nestingLimit :=
    fits.depth_moved.trans_le fits.depth_le
  unfold Turn.made
  dsimp only
  split
  · exact ⟨depth_le, fits.nested_moved⟩
  · exact ⟨depth_le, fits.nested_moved⟩
  · rename_i pending task action
    rw [action] at descends
    have depth_eq : (turn.moved row).state.depth = turn.caller.depth := fits.depth_moved
    refine ⟨?_, fits.caller_le_moved, ?_, ?_⟩
    · dsimp only
      cases descends with
      | ask _ none => omega
      | enter _ one inside => omega
    · exact congrArg (· + pending.levels) depth_eq
    · rw [frames_moved]
      exact fits.nested

/-- A call weighs less than the function that makes it. -/
theorem Turn.Fits.lower (fits : turn.Fits)
    (descends : turn.move.action.Descends turn.task turn.caller.depth)
    (called : (turn.made row).control = .call task) :
    weight row task (turn.made row).state < weight row turn.task turn.caller := by
  unfold Turn.made at called ⊢
  dsimp only at called ⊢
  split at called
  · cases called
  · cases called
    rename_i action
    rw [action] at descends
    cases descends with
    | proceed below => exact weight_lt_of_below fits.caller_le_moved fits.depth_moved below
  · cases called
    rename_i pending action
    rw [action] at descends
    have depth_eq : (turn.moved row).state.depth = turn.caller.depth := fits.depth_moved
    cases descends with
    | ask _ none below =>
      refine weight_lt_of_below ?_ ?_ below
      · exact fits.caller_le_moved
      · dsimp only
        omega
    | enter _ one inside =>
      refine weight_lt_of_enter ?_ inside ?_
      · exact fits.caller_le_moved
      · dsimp only
        omega

theorem Invariant.descends (invariant : Invariant config) (has : HasTurn row config turn) :
    turn.move.action.Descends turn.task turn.caller.depth := by
  rw [← (invariant.fits has).depth_eq]
  exact has.lawful.descends

theorem exists_turn_of_step (stepped : step row config = some next) :
    ∃ turn, HasTurn row config turn ∧ turn.made row = next := by
  obtain ⟨turn, has, made⟩ := Option.map_eq_some_iff.mp stepped
  exact ⟨turn, hasTurn_of_turn? has, made⟩

/-- The step lemma: what holds of a configuration holds of the one after it. -/
theorem Invariant.step (invariant : Invariant config)
    (stepped : Calls.step row config = some next) : Invariant next := by
  obtain ⟨turn, has, rfl⟩ := exists_turn_of_step stepped
  exact (invariant.fits has).invariant (invariant.descends has)

end Steps

/-! ## Whole runs -/

theorem invariant_calling (task : Task) {state : ParserState}
    (inside : state.depth ≤ nestingLimit) : Invariant (calling task state) :=
  ⟨inside, trivial⟩

/-- By induction on the steps. -/
theorem invariant_of_reaches {row : TokenStream} {config reached : Configuration}
    (invariant : Invariant config) (reaches : Reaches (step row) config reached) :
    Invariant reached := by
  induction reaches with
  | refl => exact invariant
  | tail _ stepped inductionHypothesis => exact inductionHypothesis.step stepped

end CompilerFront.Expr.Calls
