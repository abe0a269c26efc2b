import CompilerFront.Proofs.Calls.Descent
import CompilerFront.Proofs.Calls.Returns
import CompilerFront.Proofs.Grammar.Acceptance
import CompilerFront.Proofs.Writing.Nesting

/-!
Contract: what a call of the reader keeps to, over tokens that end with the end of the text.

Owns:
- `Accounted`, by which the tokens taken are those between the start and the position, none of them
  the end of the text, unless a fault is on its way out;
- `Kept`, what holds of a configuration in which a call has read something;
- `call_keeps_contract`, for every function but the loops, whose operand on the left is not theirs.
-/

namespace CompilerFront.Expr.Calls

open CompilerFront.Expr.Parser (Task Stops)
open Guarded (ParserState)
open Guarded.Parser (Stands operatorOf)
open Grammar (Category Climbs Phrase)
open StateTransition (Reaches eval)

/-! ## Tokens taken -/

/-- The tokens taken so far are those from the start to the position, without the end of the
text. -/
structure TakesNoEnd (row : TokenStream) (start : Nat) (config : Configuration) : Prop where
  taken_eq : row.toList.drop start = config.taken ++ row.toList.drop config.state.position
  ne_endOfText : ∀ token ∈ config.taken, token.kind ≠ .endOfText

/-- The end of the text is taken on the way to a fault only. That does happen: an operand takes its
token before it is known to be none. -/
def Accounted (row : TokenStream) (start : Nat) (config : Configuration) : Prop :=
  TakesNoEnd row start config ∨ ∃ fault, config.control = .answer (.error fault)

section Taking

variable {row : TokenStream} {start : Nat} {config next : Configuration} {turn : Turn}

/-- Only the last token is the end of the text, so any other one lies inside the row and moves the
position. -/
theorem takesNoEnd_take (isEnd : (row.tokenAt row.later.length).kind = .endOfText)
    (accounted : TakesNoEnd row start config)
    (other : (row.tokenAt config.state.position).kind ≠ .endOfText) :
    TakesNoEnd row start (config.take row) := by
  have inside : config.state.position < row.later.length := by
    by_contra beyond
    apply other
    rw [← isEnd]
    unfold TokenStream.tokenAt
    simp only [Nat.min_eq_right (Nat.le_of_not_lt beyond), Nat.min_self]
  have here : row.toList.drop config.state.position =
      row.tokenAt config.state.position :: row.toList.drop (config.state.position + 1) := by
    rw [List.drop_eq_getElem_cons (Nat.lt_succ_of_lt inside)]
    unfold TokenStream.tokenAt
    simp only [List.get_eq_getElem, Nat.min_eq_left (Nat.le_of_lt inside)]
    rfl
  refine ⟨?_, ?_⟩
  · rw [accounted.taken_eq, here]
    simp only [Configuration.take, inside, ↓reduceIte, List.append_assoc, List.cons_append,
      List.nil_append]
  · intro token member
    rcases List.mem_append.mp member with before | added
    · exact accounted.ne_endOfText token before
    · rw [List.mem_singleton.mp added]
      exact other

/-- The action of a turn takes no further token. -/
theorem takesNoEnd_made (moved : TakesNoEnd row start (turn.moved row)) :
    TakesNoEnd row start (turn.made row) := by
  obtain ⟨taken_eq, others⟩ := moved
  unfold Turn.made
  dsimp only
  split <;> exact ⟨taken_eq, others⟩

theorem control_made {answer : Answer} (action : turn.move.action = .answer answer) :
    (turn.made row).control = .answer answer := by
  unfold Turn.made
  rw [action]

/-- A turn begins with the tokens taken before it; a fault of the call makes it a fault. -/
theorem Accounted.begun (accounted : Accounted row start config) (has : HasTurn row config turn) :
    TakesNoEnd row start turn.config ∨ ∃ fault, turn.move.action = .answer (.error fault) := by
  rcases accounted with ⟨taken_eq, others⟩ | ⟨fault, failed⟩
  · left
    cases has <;> exact ⟨taken_eq, others⟩
  · right
    cases has with
    | call => cases failed
    | answer =>
      cases failed
      exact ⟨fault, rfl⟩

theorem Accounted.takesNoEnd {read : Measured} (accounted : Accounted row start config)
    (answered : config.control = .answer (.ok read)) : TakesNoEnd row start config := by
  rcases accounted with takesNoEnd | ⟨fault, failed⟩
  · exact takesNoEnd
  · rw [answered] at failed
    cases failed

/-- The step of the invariant. By the law of the moves the end of the text is taken on the way to a
fault only. -/
theorem Accounted.step (isEnd : (row.tokenAt row.later.length).kind = .endOfText)
    (accounted : Accounted row start config) (stepped : Calls.step row config = some next) :
    Accounted row start next := by
  obtain ⟨turn, has, rfl⟩ := exists_turn_of_step stepped
  rcases accounted.begun has with before | ⟨fault, action⟩
  rotate_left
  · exact .inr ⟨fault, control_made action⟩
  by_cases takes : turn.move.takes = true
  rotate_left
  · left
    apply takesNoEnd_made
    rw [Turn.moved, if_neg takes]
    exact before
  by_cases atEnd : (row.tokenAt turn.config.state.position).kind = .endOfText
  · obtain ⟨fault, action⟩ := has.lawful.fails_at_end atEnd takes
    exact .inr ⟨fault, control_made action⟩
  · left
    apply takesNoEnd_made
    rw [Turn.moved, if_pos takes]
    exact takesNoEnd_take isEnd before atEnd

/-- By induction on the steps from a call that has taken nothing yet. -/
theorem accounted_of_reaches (isEnd : (row.tokenAt row.later.length).kind = .endOfText)
    {task : Task} {state : ParserState} {reached : Configuration}
    (reaches : Reaches (Calls.step row) (calling task state) reached) :
    Accounted row state.position reached := by
  induction reaches with
  | refl => exact .inl ⟨rfl, List.forall_mem_nil _⟩
  | tail _ stepped inductionHypothesis => exact inductionHypothesis.step isEnd stepped

end Taking

/-! ## Progress -/

/-- No phrase is empty. -/
theorem phrase_ne_nil {category : Category} {tokens : List Token} {tree : Tree}
    (phrase : Phrase category tokens tree) : tokens ≠ [] := by
  induction phrase with
  | unconditional _ inner | tighter _ _ _ inner | tightest _ inner | unsigned _ inner
  | bare _ inner => exact inner
  | choice | operation | asserted | parenthesized => simp
  | signed | int | string | bool | null => exact List.cons_ne_nil _ _

/-- The functions that read an expression of their own, which are all but the loops. -/
def ReadsWhole : Task → Prop
  | .binaryTail .. | .postfixTail _ => False
  | _ => True

theorem givesLow_of_readsWhole {task : Task} (whole : ReadsWhole task) : GivesLow task := by
  cases task with
  | binaryTail | postfixTail => exact whole.elim
  | _ => trivial

/-- Such a function takes a token at least, and leaves the end of the text. -/
theorem exists_remaining {last : Token} (isEnd : last.kind = .endOfText) {task : Task}
    (whole : ReadsWhole task) {tokens : List Token} {rest : TokenStream} {read : Measured}
    (climbs : Climbs task (.ofInit tokens last) read rest) :
    ∃ taken remaining, tokens = taken ++ remaining ∧ taken ≠ [] ∧
      rest = .ofInit remaining last := by
  obtain ⟨taken, remaining, split, restShape, derived⟩ := Grammar.phrase_of_climbs isEnd climbs rfl
  cases task with
  | binaryTail | postfixTail => exact whole.elim
  | conditional | conditionalBody | unary | postfixed | operand =>
    exact ⟨taken, remaining, split, phrase_ne_nil derived, restShape⟩
  | binary loosest =>
    -- The grammar has no level above the eleventh, so the operand on the left stands for the whole.
    cases climbs with
    | operands leftRead tailRead =>
      obtain ⟨leftTaken, middle, rfl, rfl, leftPhrase⟩ :=
        Grammar.phrase_of_climbs isEnd leftRead rfl
      obtain ⟨tailTaken, tailRemaining, rfl, tailShape, -⟩ :=
        Grammar.phrase_of_climbs isEnd tailRead rfl
      exact ⟨leftTaken ++ tailTaken, tailRemaining, (List.append_assoc _ _ _).symm,
        fun empty => phrase_ne_nil leftPhrase (List.append_eq_nil_iff.mp empty).1, tailShape⟩

/-! ## The contract -/

/-- What holds when a call made in a state has read something: the level is the one before, the
position is behind it but still on the row, the tokens in between are those that were taken, none of
them the end of the text, the recorded height is that of the tree and within the limit, and behind a
row of operands stands no operator that is tight enough to go on with. -/
structure Kept (row : TokenStream) (task : Task) (start : ParserState) (final : Configuration)
    (read : Measured) : Prop where
  depth_eq : final.state.depth = start.depth
  start_lt : start.position < final.state.position
  position_le : final.state.position ≤ row.later.length
  takesNoEnd : TakesNoEnd row start.position final
  height_eq : read.height = read.tree.height
  height_le : read.height ≤ nestingLimit
  stops : ∀ loosest, task = .binary loosest → ∀ operator,
    operatorOf (row.tokenAt final.state.position) = some operator → operator.precedence < loosest

/-- The contract of a call: whatever the machine comes through, the depth is within the limit; it
comes to an end and answers what the function gives on the stream at its position, on the level it
began on, be it a fault, and at the place where the function leaves off; and it keeps to what it has
read. -/
structure KeepsContract (row : TokenStream) (task : Task) (start : ParserState) : Prop where
  depth_le : ∀ reached, Reaches (step row) (calling task start) reached →
    reached.state.depth ≤ nestingLimit
  answers : ∃ stream final, Stands row.toList start.position stream ∧
    eval (step row) (calling task start) = Part.some final ∧
    final.control = .answer ((task.read start.depth stream).map Prod.fst) ∧
    final.state.depth = start.depth ∧
    ∀ read rest, task.read start.depth stream = .ok (read, rest) →
      Stands row.toList final.state.position rest
  keeps : ∀ final read, final ∈ eval (step row) (calling task start) →
    final.control = .answer (.ok read) → Kept row task start final read

section Rows

variable {initial : List Token} {last : Token}

theorem stands_ofInit (last : Token) {position : Nat} (inside : position ≤ initial.length) :
    Stands (TokenStream.ofInit initial last).toList position
      (.ofInit (initial.drop position) last) := by
  rw [Stands, TokenStream.toList_ofInit, TokenStream.toList_ofInit, List.drop_append_of_le_length
    inside]

theorem length_later_ofInit : (TokenStream.ofInit initial last).later.length = initial.length := by
  have length := congrArg List.length (TokenStream.toList_ofInit initial last)
  rw [TokenStream.toList, List.length_cons, List.length_append, List.length_singleton] at length
  omega

theorem tokenAt_last :
    (TokenStream.ofInit initial last).tokenAt (TokenStream.ofInit initial last).later.length =
      last := by
  have stands := stands_ofInit last (Nat.le_refl initial.length)
  rw [List.drop_length] at stands
  rw [length_later_ofInit]
  exact tokenAt_of_stands stands

/-- Behind some tokens of a row, the position has grown by their number and is still on the row. -/
theorem position_of_stands {start position : Nat} {tokens remaining : List Token}
    (inside : start ≤ initial.length) (split : initial.drop start = tokens ++ remaining)
    (stands : Stands (TokenStream.ofInit initial last).toList position (.ofInit remaining last)) :
    position = start + tokens.length ∧ position ≤ initial.length := by
  have split_length := congrArg List.length split
  rw [List.length_drop, List.length_append] at split_length
  have length := stands.length_eq
  rw [TokenStream.toList_ofInit, List.length_append, List.length_singleton, length_later_ofInit]
    at length
  omega

end Rows

/-- What a call reads over a row that ends with the end of the text is kept to. -/
theorem kept_of_eval {initial : List Token} {last : Token} (isEnd : last.kind = .endOfText)
    {task : Task} (whole : ReadsWhole task) {start : ParserState}
    (position_le : start.position ≤ initial.length) {position : Nat} {taken : List Token}
    {read : Measured} {rest : TokenStream}
    (ends : ⟨.answer (.ok read), ⟨position, start.depth⟩, taken, []⟩ ∈
      eval (step (.ofInit initial last)) (calling task start))
    (outcome : task.read start.depth (.ofInit (initial.drop start.position) last) =
      .ok (read, rest))
    (standsRest : Stands (TokenStream.ofInit initial last).toList position rest) :
    Kept (.ofInit initial last) task start
      ⟨.answer (.ok read), ⟨position, start.depth⟩, taken, []⟩ read := by
  have reads := Parser.reads_read start.depth task (.ofInit (initial.drop start.position) last)
  have climbs := Grammar.climbs_of_reads reads outcome
  obtain ⟨phrase, remaining, split, nonempty, rfl⟩ := exists_remaining isEnd whole climbs
  have low := low_of_reads reads (givesLow_of_readsWhole whole) outcome
  have position_eq := position_of_stands position_le split standsRest
  have positive := List.length_pos_of_ne_nil nonempty
  have accounted := accounted_of_reaches (tokenAt_last ▸ isEnd) (StateTransition.mem_eval.mp ends).1
  refine ⟨rfl, ?_, ?_, accounted.takesNoEnd rfl, low.height_eq, low.le, ?_⟩
  · dsimp only
    omega
  · rw [length_later_ofInit]
    dsimp only
    omega
  · rintro loosest rfl operator isOperator
    rw [tokenAt_of_stands standsRest] at isOperator
    exact Grammar.leavesOff_of_climbs climbs operator isOperator

/-- Over a row of tokens that ends with the end of the text, every call of a function that reads an
expression of its own, from any position and depth, keeps to the contract. -/
theorem call_keeps_contract {initial : List Token} {last : Token} (isEnd : last.kind = .endOfText)
    {task : Task} (whole : ReadsWhole task) {start : ParserState}
    (position_le : start.position ≤ initial.length) (depth_le : start.depth ≤ nestingLimit) :
    KeepsContract (.ofInit initial last) task start := by
  have stands := stands_ofInit last position_le
  obtain ⟨position, taken, ends, standsRest⟩ := exists_eval task start stands
  refine ⟨?_, ⟨_, _, stands, ends, rfl, rfl, standsRest⟩, ?_⟩
  · intro reached reaches
    exact (invariant_of_reaches (invariant_calling task depth_le) reaches).depth_le
  · intro final read isFinal answered
    have final_eq := isFinal
    rw [ends, Part.mem_some_iff] at final_eq
    subst final_eq
    cases outcome : task.read start.depth (.ofInit (initial.drop start.position) last) with
    | error =>
      rw [outcome] at answered
      cases answered
    | ok found =>
      obtain ⟨found, rest⟩ := found
      rw [outcome] at answered isFinal
      cases answered
      exact kept_of_eval isEnd whole position_le isFinal outcome (standsRest _ _ outcome)

/-- The tokens of `(-null!! * "a")`, but for the end of the text. -/
def signedProduct : List Token :=
  [⟨.symbol .leftParen, 1⟩, ⟨.symbol .minus, 2⟩, ⟨.null, 3⟩, ⟨.symbol .bangBang, 7⟩,
    ⟨.symbol .star, 10⟩, ⟨.string "a", 12⟩, ⟨.symbol .rightParen, 15⟩]

/-- A call behind the parenthesis, on the last level but one. -/
theorem signedProduct_keepsContract :
    KeepsContract (.ofInit signedProduct ⟨.endOfText, 16⟩) (.binary 10) ⟨1, 255⟩ :=
  call_keeps_contract rfl (show ReadsWhole (.binary 10) from trivial) (by decide) (by decide)

/-- The call behind the parenthesis has stopped in front of the closing one after thirty steps. -/
example :
    let row : TokenStream := .ofInit signedProduct ⟨.endOfText, 16⟩
    let final := (fun config => (step row config).getD config)^[30] (calling (.binary 10) ⟨1, 255⟩)
    final.control = .answer (.ok ⟨.binary .multiply
        (.unary .negate (.unary .nonNull .null 7) 2) (.string "a") 10, 4⟩) ∧
      final.state = ⟨6, 255⟩ := by
  decide

end CompilerFront.Expr.Calls
