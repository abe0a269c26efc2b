import CompilerFront.Proofs.Grammar.Climbing
import CompilerFront.Proofs.Grammar.Phrase

/-!
Contract: the reader of expressions accepts exactly the documented grammar.

Owns:
- `readable_of_phrase`, by which reading without limits finds every phrase;
- `phrase_of_climbs`, by which it finds nothing else;
- `ofTokens_accepts_grammar`, the two together for whole token streams: the reader gives the tree of
  the derivation, or refuses for nesting too deeply, or there is no derivation.

The grammar grows a row of operators from the left while the reader loops over it. The loop is
matched to the derivation by quantifying over what follows a phrase.
-/

namespace CompilerFront.Expr

def Tree.measured (tree : Tree) : Measured := ⟨tree, tree.height⟩

namespace TokenStream

@[simp] theorem advance_ofInit_cons (first : Token) (others : List Token) (last : Token) :
    (ofInit (first :: others) last).advance = ofInit others last := by
  cases others <;> rfl

@[simp] theorem current_ofInit_cons (first : Token) (others : List Token) (last : Token) :
    (ofInit (first :: others) last).current = first := rfl

end TokenStream

namespace Grammar

open CompilerFront.Expr.Parser (Task Reads ReadOutcome Stops operatorAt prefixAt leaf?)

/-! ## Phrases are read -/

/-- A stream at a token that ends an expression: the end of the text, a closing parenthesis or a
colon. -/
def Closes (stream : TokenStream) : Prop :=
  stream.current.kind = .endOfText ∨ stream.current.kind = .symbol .rightParen ∨
    stream.current.kind = .symbol .colon

section Closes

variable {stream : TokenStream}

/-- None of the three tokens that may stand behind a whole expression joins operands. -/
theorem operatorAt_of_closes (closes : Closes stream) : operatorAt stream = none := by
  unfold operatorAt
  rcases closes with isEnd | isClosing | isColon
  · rw [isEnd]
  · rw [isClosing]
    rfl
  · rw [isColon]
    rfl

theorem not_question_of_closes (closes : Closes stream) : stream.atSymbol .question = false := by
  rcases closes with found | found | found
  all_goals rw [TokenStream.atSymbol, found]
  all_goals decide

theorem not_mark_of_closes (closes : Closes stream) : stream.atSymbol .bangBang = false := by
  rcases closes with found | found | found
  all_goals rw [TokenStream.atSymbol, found]
  all_goals decide

theorem stops_of_operatorAt (noOperator : operatorAt stream = none) (loosest : Nat) :
    Stops loosest stream := by
  intro operator isOperator
  rw [noOperator] at isOperator
  cases isOperator

theorem stops_mono {loosest tighter : Nat} (stops : Stops loosest stream)
    (le : loosest ≤ tighter) : Stops tighter stream :=
  fun operator isOperator => Nat.lt_of_lt_of_le (stops operator isOperator) le

end Closes

/-- An operand with its postfix operators does not start with a prefix operator. -/
theorem prefixAt_of_climbs {stream rest : TokenStream} {read : Measured}
    (climbs : Climbs .postfixed stream read rest) : prefixAt stream = none := by
  cases climbs with
  | postfixed operandRead =>
    unfold prefixAt
    cases operandRead with
    | leaf isLeaf =>
      split
      · rename_i symbol isSymbol
        rw [isSymbol] at isLeaf
        cases isLeaf
      · rfl
    | parenthesized isOpening =>
      rw [TokenStream.atSymbol, beq_iff_eq] at isOpening
      rw [isOpening]
      rfl

/-- What a phrase of a category allows to be read, whatever follows it.

A binary phrase leaves the loop of its operators at its own tree, ready to take operators that are
no tighter; a postfix phrase leaves the loop of its marks there. -/
def Readable (last : Token) : Category → List Token → Tree → Prop
  | .conditional, tokens, tree => ∀ rest : List Token, Closes (.ofInit rest last) →
      Climbs .conditional (.ofInit (tokens ++ rest) last) tree.measured (.ofInit rest last)
  | .binary level, tokens, tree => ∀ (rest : List Token) (loosest : Nat) (read : Measured)
      (final : TokenStream),
      (TokenStream.ofInit rest last).atSymbol .bangBang = false →
      Stops (level + 1) (.ofInit rest last) → loosest ≤ level →
      Climbs (.binaryTail loosest tree.measured) (.ofInit rest last) read final →
      Climbs (.binary loosest) (.ofInit (tokens ++ rest) last) read final
  | .unary, tokens, tree => ∀ rest : List Token,
      (TokenStream.ofInit rest last).atSymbol .bangBang = false →
      Climbs .unary (.ofInit (tokens ++ rest) last) tree.measured (.ofInit rest last)
  | .postfixed, tokens, tree => ∀ (rest : List Token) (read : Measured) (final : TokenStream),
      Climbs (.postfixTail tree.measured) (.ofInit rest last) read final →
      Climbs .postfixed (.ofInit (tokens ++ rest) last) read final
  | .primary, tokens, tree => ∀ rest : List Token,
      Climbs .operand (.ofInit (tokens ++ rest) last) tree.measured (.ofInit rest last)

theorem readable_leaf (last : Token) {token : Token} {tree : Tree}
    (isLeaf : leaf? token.kind = some tree) (single : tree.height = 1) :
    Readable last .primary [token] tree := by
  intro rest
  have climbs : Climbs .operand (.ofInit (token :: rest) last) ⟨tree, 1⟩
      (TokenStream.ofInit (token :: rest) last).advance := .leaf isLeaf
  rw [TokenStream.advance_ofInit_cons, ← single] at climbs
  exact climbs

/-- A condition, which a question mark follows, is read up to the question mark. -/
theorem climbs_condition {last question : Token} {before : List Token} {condition : Tree}
    (readable : Readable last (.binary 1) before condition)
    (isQuestion : question.kind = .symbol .question) (after : List Token) :
    Climbs (.binary 0) (.ofInit (before ++ question :: after) last) condition.measured
      (.ofInit (question :: after) last) := by
  have noOperator : operatorAt (.ofInit (question :: after) last) = none := by
    rw [operatorAt, TokenStream.current_ofInit_cons, isQuestion]
    rfl
  have noMark : (TokenStream.ofInit (question :: after) last).atSymbol .bangBang = false := by
    rw [TokenStream.atSymbol, TokenStream.current_ofInit_cons, isQuestion]
    decide
  exact readable (question :: after) 0 _ _ noMark (stops_of_operatorAt noOperator _)
    (Nat.zero_le 1) (.stop (stops_of_operatorAt noOperator 0))

/-- Every phrase is readable, by induction on its derivation. -/
theorem readable_of_phrase (last : Token) {category : Category} {tokens : List Token} {tree : Tree}
    (phrase : Phrase category tokens tree) : Readable last category tokens tree := by
  induction phrase with
  | @unconditional tokens tree _ readable =>
    intro rest closes
    have noOperator := operatorAt_of_closes closes
    have condition := readable rest 0 _ _ (not_mark_of_closes closes)
      (stops_of_operatorAt noOperator _) (Nat.zero_le 1) (.stop (stops_of_operatorAt noOperator 0))
    exact .enter (.noQuestion condition (not_question_of_closes closes))
  | @choice before between after question colon condition thenBranch elseBranch _ isQuestion _
      isColon _ conditionReadable thenReadable elseReadable =>
    intro rest closes
    have conditionRead := climbs_condition conditionReadable isQuestion
      (between ++ colon :: (after ++ rest))
    have thenRead := thenReadable (colon :: (after ++ rest)) (.inr (.inr isColon))
    have elseRead := elseReadable rest closes
    rw [← TokenStream.advance_ofInit_cons question] at thenRead
    rw [← TokenStream.advance_ofInit_cons colon] at elseRead
    simp only [List.append_assoc, List.cons_append]
    exact .enter (.choice conditionRead (beq_iff_eq.mpr isQuestion) thenRead
      (beq_iff_eq.mpr isColon) elseRead)
  | tighter _ _ _ readable =>
    intro rest loosest read final noMark stops le tailRead
    exact readable rest loosest read final noMark (stops_mono stops (Nat.le_succ _))
      (Nat.le_succ_of_le le) tailRead
  | @operation level before after sign symbol operator left right _ isSign member _
      leftReadable rightReadable =>
    intro rest loosest read final noMark stops le tailRead
    obtain ⟨isOperator, rfl⟩ := mem_operatorsOn_iff.mp member
    have atSign : operatorAt (.ofInit (sign :: (after ++ rest)) last) = some operator := by
      rw [operatorAt, TokenStream.current_ofInit_cons, isSign]
      exact isOperator
    have signIsNoMark :
        (TokenStream.ofInit (sign :: (after ++ rest)) last).atSymbol .bangBang = false := by
      rw [TokenStream.atSymbol, TokenStream.current_ofInit_cons, isSign]
      cases symbol <;> first | decide | cases isOperator
    have signStops : Stops (operator.precedence + 1) (.ofInit (sign :: (after ++ rest)) last) := by
      intro other isOther
      rw [atSign] at isOther
      cases isOther
      exact Nat.lt_succ_self _
    have rightRead := rightReadable rest (operator.precedence + 1) _ _ noMark
      (stops_mono stops (Nat.le_succ _)) (Nat.le_refl _) (.stop stops)
    rw [← TokenStream.advance_ofInit_cons sign] at rightRead
    have leftRead := leftReadable (sign :: (after ++ rest)) loosest read final signIsNoMark
      signStops le (.operation atSign le rightRead tailRead)
    simpa only [List.append_assoc, List.cons_append] using leftRead
  | tightest _ readable =>
    intro rest loosest read final noMark _ _ tailRead
    exact .operands (readable rest noMark) tailRead
  | @signed tokens sign symbol operator tree isSign member _ readable =>
    intro rest noMark
    have atSign : prefixAt (.ofInit (sign :: (tokens ++ rest)) last) = some operator := by
      rw [prefixAt, TokenStream.current_ofInit_cons, isSign]
      exact mem_prefixOperators_iff.mp member
    have operandRead := readable rest noMark
    rw [← TokenStream.advance_ofInit_cons sign] at operandRead
    exact .signed atSign operandRead
  | unsigned _ readable =>
    intro rest noMark
    have operandRead := readable rest _ _ (.noMark noMark)
    exact .unsigned (prefixAt_of_climbs operandRead) operandRead
  | @asserted tokens mark tree _ isMark readable =>
    intro rest read final tailRead
    rw [← TokenStream.advance_ofInit_cons mark] at tailRead
    have operandRead := readable (mark :: rest) read final
      (.mark (beq_iff_eq.mpr isMark) tailRead)
    simpa only [List.append_assoc, List.cons_append, List.nil_append] using operandRead
  | bare _ readable =>
    intro rest read final tailRead
    exact .postfixed (readable rest) tailRead
  | int isInt => exact readable_leaf last (by rw [isInt]; rfl) rfl
  | string isString => exact readable_leaf last (by rw [isString]; rfl) rfl
  | bool isBool => exact readable_leaf last (by rw [isBool]; rfl) rfl
  | null isNull => exact readable_leaf last (by rw [isNull]; rfl) rfl
  | @parenthesized tokens opening closing tree isOpening _ isClosing readable =>
    intro rest
    have innerRead := readable (closing :: rest) (.inr (.inl isClosing))
    rw [← TokenStream.advance_ofInit_cons opening] at innerRead
    have operandRead := Climbs.parenthesized (beq_iff_eq.mpr isOpening) innerRead
      (beq_iff_eq.mpr isClosing)
    rw [TokenStream.advance_ofInit_cons] at operandRead
    simpa only [List.append_assoc, List.cons_append, List.nil_append] using operandRead

/-! ## What is read is a phrase -/

/-- A phrase of a tighter level is one of every looser level, by the rules that pass from level to
level. -/
theorem phrase_loosen {level loosest : Nat} {tokens : List Token} {tree : Tree}
    (phrase : Phrase (.binary level) tokens tree) (positive : 1 ≤ loosest) (le : loosest ≤ level)
    (atMost : level ≤ 11) : Phrase (.binary loosest) tokens tree := by
  induction le with
  | refl => exact phrase
  | step le inductionHypothesis =>
    exact inductionHypothesis (.tighter (Nat.le_trans positive le) (Nat.le_of_succ_le_succ atMost)
      phrase) (Nat.le_of_succ_le atMost)

/-- Where a task leaves off: a loop of binary operators leaves off before a looser operator. -/
def LeavesOff : Task → TokenStream → Prop
  | .binary loosest, rest | .binaryTail loosest _, rest => Stops loosest rest
  | _, _ => True

/-- A loop ends only where no operator is tight enough to go on with. -/
theorem leavesOff_of_climbs {task : Task} {stream rest : TokenStream} {read : Measured}
    (climbs : Climbs task stream read rest) : LeavesOff task rest := by
  induction climbs with
  | stop stops => exact stops
  | operands _ _ _ tailStops => exact tailStops
  | operation _ _ _ _ _ tailStops => exact tailStops
  | _ => trivial

/-- What is known of the tokens that a task took. A loop takes tokens behind a phrase that is
already there; with a loop of binary operators comes the level that this phrase is of, and the next
operator is not tighter than it. -/
def Derived : Task → TokenStream → List Token → Tree → Prop
  | .conditional, _, taken, tree => Phrase .conditional taken tree
  | .conditionalBody, _, taken, tree => Phrase .conditional taken tree
  | .binary loosest, _, taken, tree => loosest ≤ 11 → Phrase (.binary (max 1 loosest)) taken tree
  | .binaryTail loosest left, stream, taken, tree => ∀ (before : List Token) (level : Nat),
      Phrase (.binary level) before left.tree → max 1 loosest ≤ level → level ≤ 11 →
      Stops (level + 1) stream → Phrase (.binary (max 1 loosest)) (before ++ taken) tree
  | .unary, _, taken, tree => Phrase .unary taken tree
  | .postfixed, _, taken, tree => Phrase .postfixed taken tree
  | .postfixTail inner, _, taken, tree => ∀ before : List Token,
      Phrase .postfixed before inner.tree → Phrase .postfixed (before ++ taken) tree
  | .operand, _, taken, tree => Phrase .primary taken tree

section Heads

variable {last : Token} {tokens : List Token}

/-- A stream at a symbol has a first token before its last one, and this is the symbol. -/
theorem exists_cons_of_atSymbol (isEnd : last.kind = .endOfText) {symbol : Symbol}
    (isSymbol : (TokenStream.ofInit tokens last).atSymbol symbol = true) :
    ∃ first others, tokens = first :: others ∧ first.kind = .symbol symbol := by
  rw [TokenStream.atSymbol, beq_iff_eq] at isSymbol
  cases tokens with
  | nil =>
    rw [TokenStream.ofInit, isEnd] at isSymbol
    cases isSymbol
  | cons first others => exact ⟨first, others, rfl, isSymbol⟩

/-- An operator is never the last token of the row, since that is the end of the text. -/
theorem exists_cons_of_operatorAt (isEnd : last.kind = .endOfText) {operator : BinaryOperator}
    (isOperator : operatorAt (.ofInit tokens last) = some operator) :
    ∃ first others symbol, tokens = first :: others ∧ first.kind = .symbol symbol ∧
      (symbol, operator) ∈ operatorsOn operator.precedence := by
  cases tokens with
  | nil =>
    rw [operatorAt, TokenStream.ofInit, isEnd] at isOperator
    cases isOperator
  | cons first others =>
    rw [operatorAt, TokenStream.current_ofInit_cons] at isOperator
    split at isOperator
    · rename_i symbol isSymbol
      exact ⟨first, others, symbol, rfl, isSymbol, mem_operatorsOn_iff.mpr ⟨isOperator, rfl⟩⟩
    · cases isOperator

theorem exists_cons_of_prefixAt (isEnd : last.kind = .endOfText) {operator : UnaryOperator}
    (isSign : prefixAt (.ofInit tokens last) = some operator) :
    ∃ first others symbol, tokens = first :: others ∧ first.kind = .symbol symbol ∧
      (symbol, operator) ∈ prefixOperators := by
  cases tokens with
  | nil =>
    rw [prefixAt, TokenStream.ofInit, isEnd] at isSign
    cases isSign
  | cons first others =>
    rw [prefixAt, TokenStream.current_ofInit_cons] at isSign
    split at isSign
    · rename_i symbol isSymbol
      exact ⟨first, others, symbol, rfl, isSymbol, mem_prefixOperators_iff.mpr isSign⟩
    · cases isSign

theorem exists_cons_of_leaf (isEnd : last.kind = .endOfText) {tree : Tree}
    (isLeaf : leaf? (TokenStream.ofInit tokens last).current.kind = some tree) :
    ∃ first others, tokens = first :: others ∧ Phrase .primary [first] tree := by
  cases tokens with
  | nil =>
    rw [TokenStream.ofInit, isEnd] at isLeaf
    cases isLeaf
  | cons first others =>
    refine ⟨first, others, rfl, ?_⟩
    rw [TokenStream.current_ofInit_cons] at isLeaf
    cases isKind : first.kind with
    | int number =>
      rw [isKind] at isLeaf
      cases isLeaf
      exact .int isKind
    | string text =>
      rw [isKind] at isLeaf
      cases isLeaf
      exact .string isKind
    | bool truth =>
      rw [isKind] at isLeaf
      cases isLeaf
      exact .bool isKind
    | null =>
      rw [isKind] at isLeaf
      cases isLeaf
      exact .null isKind
    | symbol symbol =>
      rw [isKind] at isLeaf
      cases isLeaf
    | endOfText =>
      rw [isKind] at isLeaf
      cases isLeaf

end Heads

/-- What a task reads without limits is derived from the tokens that it takes. -/
theorem phrase_of_climbs {last : Token} (isEnd : last.kind = .endOfText) {task : Task}
    {stream rest : TokenStream} {read : Measured} (climbs : Climbs task stream read rest)
    {tokens : List Token} (shape : stream = .ofInit tokens last) :
    ∃ taken remaining, tokens = taken ++ remaining ∧ rest = .ofInit remaining last ∧
      Derived task stream taken read.tree := by
  induction climbs generalizing tokens with
  | enter _ bodyDerived => exact bodyDerived shape
  | noQuestion _ _ conditionDerived =>
    obtain ⟨taken, remaining, split, rest, derived⟩ := conditionDerived shape
    exact ⟨taken, remaining, split, rest, .unconditional (derived (Nat.zero_le 11))⟩
  | choice _ isQuestion _ isColon _ conditionDerived thenDerived elseDerived =>
    obtain ⟨before, atQuestion, rfl, rfl, condition⟩ := conditionDerived shape
    obtain ⟨question, behind, rfl, questionKind⟩ := exists_cons_of_atSymbol isEnd isQuestion
    rw [TokenStream.advance_ofInit_cons] at thenDerived
    obtain ⟨between, atColon, rfl, rfl, thenPhrase⟩ := thenDerived rfl
    obtain ⟨colon, behind, rfl, colonKind⟩ := exists_cons_of_atSymbol isEnd isColon
    rw [TokenStream.advance_ofInit_cons] at elseDerived
    obtain ⟨after, remaining, rfl, rfl, elsePhrase⟩ := elseDerived rfl
    refine ⟨before ++ question :: (between ++ colon :: after), remaining, ?_, rfl, ?_⟩
    · simp only [List.append_assoc, List.cons_append]
    · exact .choice (condition (Nat.zero_le 11)) questionKind thenPhrase colonKind elsePhrase
  | operands _ _ leftDerived tailDerived =>
    obtain ⟨before, middle, rfl, rfl, left⟩ := leftDerived shape
    obtain ⟨after, remaining, rfl, rfl, tail⟩ := tailDerived rfl
    refine ⟨before ++ after, remaining, (List.append_assoc ..).symm, rfl, fun atMost => ?_⟩
    have everyStops : Stops (11 + 1) (.ofInit (after ++ remaining) last) := fun operator _ =>
      Nat.lt_of_le_of_lt operator.precedence_le (by decide)
    exact tail before 11 (.tightest left) (Nat.max_le.mpr ⟨by decide, atMost⟩) (Nat.le_refl 11)
      everyStops
  | stop =>
    refine ⟨[], tokens, rfl, shape, fun before level phrase le atMost _ => ?_⟩
    rw [List.append_nil]
    exact phrase_loosen phrase (Nat.le_max_left ..) le atMost
  | @operation loosest _ _ _ left right _ operator isOperator tight rightRead _ rightDerived
      tailDerived =>
    subst shape
    obtain ⟨sign, behind, symbol, rfl, signKind, member⟩ :=
      exists_cons_of_operatorAt isEnd isOperator
    rw [TokenStream.advance_ofInit_cons] at rightDerived
    obtain ⟨after, middle, rfl, rfl, rightPhrase⟩ := rightDerived rfl
    obtain ⟨further, remaining, rfl, rfl, tail⟩ := tailDerived rfl
    refine ⟨sign :: (after ++ further), remaining, ?_, rfl,
      fun before level phrase le atMost stops => ?_⟩
    · simp only [List.append_assoc, List.cons_append]
    -- The operator is no tighter than the phrase on its left, which thus is a phrase of its level.
    have leftPhrase := phrase_loosen phrase operator.precedence_pos
      (Nat.le_of_lt_succ (stops operator isOperator)) atMost
    have rightPhrase := rightPhrase (Nat.succ_le_succ operator.precedence_le)
    rw [Nat.max_eq_right (Nat.le_add_left 1 operator.precedence)] at rightPhrase
    have node := tail (before ++ sign :: after) operator.precedence
      (.operation leftPhrase signKind member rightPhrase)
      (Nat.max_le.mpr ⟨operator.precedence_pos, tight⟩)
      (Nat.le_trans operator.precedence_le (by decide)) (leavesOff_of_climbs rightRead)
    simpa only [List.append_assoc, List.cons_append] using node
  | unsigned _ _ innerDerived =>
    obtain ⟨taken, remaining, split, rest, derived⟩ := innerDerived shape
    exact ⟨taken, remaining, split, rest, .unsigned derived⟩
  | signed isSign _ operandDerived =>
    subst shape
    obtain ⟨sign, behind, symbol, rfl, signKind, member⟩ := exists_cons_of_prefixAt isEnd isSign
    rw [TokenStream.advance_ofInit_cons] at operandDerived
    obtain ⟨taken, remaining, rfl, rfl, operand⟩ := operandDerived rfl
    exact ⟨sign :: taken, remaining, rfl, rfl, .signed signKind member operand⟩
  | postfixed _ _ operandDerived tailDerived =>
    obtain ⟨before, middle, rfl, rfl, operand⟩ := operandDerived shape
    obtain ⟨after, remaining, rfl, rfl, tail⟩ := tailDerived rfl
    exact ⟨before ++ after, remaining, (List.append_assoc ..).symm, rfl,
      tail before (.bare operand)⟩
  | noMark =>
    refine ⟨[], tokens, rfl, shape, fun before phrase => ?_⟩
    rw [List.append_nil]
    exact phrase
  | mark isMark _ tailDerived =>
    subst shape
    obtain ⟨mark, behind, rfl, markKind⟩ := exists_cons_of_atSymbol isEnd isMark
    rw [TokenStream.advance_ofInit_cons] at tailDerived
    obtain ⟨after, remaining, rfl, rfl, tail⟩ := tailDerived rfl
    refine ⟨mark :: after, remaining, rfl, rfl, fun before phrase => ?_⟩
    have marked := tail (before ++ [mark]) (.asserted phrase markKind)
    simpa only [List.append_assoc, List.cons_append, List.nil_append] using marked
  | leaf isLeaf =>
    subst shape
    obtain ⟨first, others, rfl, phrase⟩ := exists_cons_of_leaf isEnd isLeaf
    exact ⟨[first], others, rfl, TokenStream.advance_ofInit_cons first others last, phrase⟩
  | parenthesized isOpening _ isClosing innerDerived =>
    subst shape
    obtain ⟨opening, behind, rfl, openingKind⟩ := exists_cons_of_atSymbol isEnd isOpening
    rw [TokenStream.advance_ofInit_cons] at innerDerived
    obtain ⟨taken, atClosing, rfl, rfl, inner⟩ := innerDerived rfl
    obtain ⟨closing, remaining, rfl, closingKind⟩ := exists_cons_of_atSymbol isEnd isClosing
    refine ⟨opening :: (taken ++ [closing]), remaining, ?_,
      TokenStream.advance_ofInit_cons closing remaining last,
      .parenthesized openingKind inner closingKind⟩
    simp only [List.append_assoc, List.cons_append, List.nil_append]

/-! ## Whole streams -/

/-- What it means that a row of tokens, with the end of the text behind it, is read by the grammar:
what is read is derived, what is derived is read unless it nests too deeply, what is not derived is
refused, and there is one tree at most. -/
structure ReadByGrammar (tokens : List Token) (last : Token) : Prop where
  sound : ∀ tree, Tree.ofTokens (.ofInit tokens last) = .ok tree → Phrase .conditional tokens tree
  complete : ∀ tree, Phrase .conditional tokens tree →
    Tree.ofTokens (.ofInit tokens last) = .ok tree ∨
      ∃ fault, Tree.ofTokens (.ofInit tokens last) = .error fault ∧
        fault.cause.message = "Expression nested too deeply"
  refused : (¬∃ tree, Phrase .conditional tokens tree) →
    ∃ fault, Tree.ofTokens (.ofInit tokens last) = .error fault
  unique : ∀ left right, Phrase .conditional tokens left → Phrase .conditional tokens right →
    left = right

/-- The tree of a row is that of its first expression, provided that nothing stands behind it. -/
theorem ofTokens_eq (stream : TokenStream) :
    Tree.ofTokens stream =
      match Task.conditional.read 0 stream with
      | .error fault => .error fault
      | .ok (read, rest) =>
        if rest.current.kind = .endOfText then .ok read.tree
        else Parser.faultAt rest .expectedEnd := by
  rw [Tree.ofTokens, Task.read]
  cases Parser.conditional 0 stream <;> rfl

theorem climbs_of_phrase {tokens : List Token} {last : Token} {tree : Tree}
    (isEnd : last.kind = .endOfText) (phrase : Phrase .conditional tokens tree) :
    Climbs .conditional (.ofInit tokens last) tree.measured (.ofInit [] last) := by
  have climbs := readable_of_phrase last phrase [] (.inl isEnd)
  rwa [List.append_nil] at climbs

/-- Token rows that end with the only end of the text are read exactly by the grammar. What is
accepted is a phrase of the tree; a phrase is refused for its depth alone; and no row is a phrase of
two trees. The relation `Climbs` stands in between: the reader gives a climb, and a climb is a
phrase with what stops behind it. -/
theorem ofTokens_accepts_grammar (tokens : List Token) (last : Token)
    (isEnd : last.kind = .endOfText) (onlyEnd : ∀ token ∈ tokens, token.kind ≠ .endOfText) :
    ReadByGrammar tokens last := by
  have sound : ∀ tree, Tree.ofTokens (.ofInit tokens last) = .ok tree →
      Phrase .conditional tokens tree := by
    intro tree accepted
    rw [ofTokens_eq] at accepted
    split at accepted
    · cases accepted
    rename_i read rest outcome
    split at accepted
    rotate_left
    · cases accepted
    rename_i atEnd
    cases accepted
    have climbs := climbs_of_reads (Parser.reads_read 0 .conditional _) outcome
    obtain ⟨taken, remaining, rfl, rfl, phrase⟩ := phrase_of_climbs isEnd climbs rfl
    cases remaining with
    | nil => rwa [List.append_nil]
    | cons first others => exact absurd atEnd (onlyEnd first (by simp))
  refine ⟨sound, ?_, ?_, ?_⟩
  · intro tree phrase
    obtain ⟨outcome, reads, agrees⟩ := reads_of_climbs (climbs_of_phrase isEnd phrase) 0
    rw [ofTokens_eq, Parser.read_eq_of_reads reads]
    rcases agrees with rfl | ⟨column, rfl⟩
    · left
      exact if_pos isEnd
    · right
      exact ⟨⟨column, .tooDeep⟩, rfl, rfl⟩
  · intro underivable
    cases outcome : Tree.ofTokens (.ofInit tokens last) with
    | error fault => exact ⟨fault, rfl⟩
    | ok tree => exact absurd ⟨tree, sound tree outcome⟩ underivable
  · intro left right leftPhrase rightPhrase
    obtain ⟨same, -⟩ := climbs_unique (climbs_of_phrase isEnd leftPhrase)
      (climbs_of_phrase isEnd rightPhrase)
    exact congrArg Measured.tree same

/-- The tokens of `-1 < 2 ? "a"!! : (null)`, but for the end of the text. -/
def mixedRow : List Token :=
  [⟨.symbol .minus, 1⟩, ⟨.int ⟨1, by decide, by decide⟩, 2⟩, ⟨.symbol .less, 4⟩,
    ⟨.int ⟨2, by decide, by decide⟩, 6⟩, ⟨.symbol .question, 8⟩, ⟨.string "a", 10⟩,
    ⟨.symbol .bangBang, 13⟩, ⟨.symbol .colon, 16⟩, ⟨.symbol .leftParen, 18⟩, ⟨.null, 19⟩,
    ⟨.symbol .rightParen, 23⟩]

/-- The tree that the levels of its operators ask for; parentheses leave no node. -/
def mixedTree : Tree :=
  .conditional
    (.binary .less (.unary .negate (.int ⟨1, by decide, by decide⟩) 1)
      (.int ⟨2, by decide, by decide⟩) 4)
    (.unary .nonNull (.string "a") 13) .null 8

/-- A row in which operators of many levels meet is a phrase, and is read to the tree of it. -/
theorem mixedRow_readByGrammar :
    (⟨.endOfText, 24⟩ : Token).kind = .endOfText ∧
      (∀ token ∈ mixedRow, token.kind ≠ .endOfText) ∧
        Tree.ofTokens (.ofInit mixedRow ⟨.endOfText, 24⟩) = .ok mixedTree ∧
          Phrase .conditional mixedRow mixedTree ∧
            ∀ tree, Phrase .conditional mixedRow tree → tree = mixedTree := by
  have onlyEnd : ∀ token ∈ mixedRow, token.kind ≠ .endOfText := by decide
  have accepted : Tree.ofTokens (.ofInit mixedRow ⟨.endOfText, 24⟩) = .ok mixedTree := by cbv
  have read := ofTokens_accepts_grammar mixedRow ⟨.endOfText, 24⟩ rfl onlyEnd
  have phrase := read.sound mixedTree accepted
  exact ⟨rfl, onlyEnd, accepted, phrase, fun tree other => read.unique tree mixedTree other phrase⟩

end Grammar

end CompilerFront.Expr
