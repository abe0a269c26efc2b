import CompilerFront.Proofs.Writing.Derivation
import CompilerFront.Proofs.Writing.Reading

/-!
Contract: the cap on nesting is exact.

Owns:
- `Fits`, by which neither the levels of an expression nor the height of its tree exceed the limit;
- `Unreadable`, by which an expression is refused for nesting too deeply wherever it stands, and
  `unreadable_written`, by which every well-placed expression that does not fit is;
- `height_le_of_ofTokens`: whatever is read, no tree exceeds the limit;
- `NestingCap`, the two together for all phrases of the grammar and for all streams.

Does not own: that expressions that fit are read (`CompilerFront.Proofs.Writing.Reading`).
-/

namespace CompilerFront.Expr

open Grammar (Closes Phrase)
open CompilerFront.Expr.Parser (Task Reads ReadOutcome Stops operatorAt prefixAt)

/-! ## What is refused -/

def TooDeep (level : Nat) (task : Task) (stream : TokenStream) : Prop :=
  ∃ column, Reads level task stream (.error ⟨column, .tooDeep⟩)

/-- In a construct of a level, an expression stays within the limit with its levels and its tree.
The two are bounded apart: parentheses add levels, and chains of operators add height. -/
structure Fits (level : Nat) (written : Written) : Prop where
  shallow : level + written.levels ≤ nestingLimit + 1
  low : written.tree.height ≤ nestingLimit

section Unreadable

variable (level : Nat) (written : Written)

/-- It is refused as an operand with its assertions. -/
def RefusesPostfixed : Prop :=
  ∀ rest : List TokenKind, TooDeep level .postfixed (streamOf (written.kinds ++ rest))

/-- It is refused as an operand of binary operators. -/
def RefusesUnary : Prop :=
  ∀ rest : List TokenKind, Unmarked (streamOf rest) →
    TooDeep level .unary (streamOf (written.kinds ++ rest))

/-- It is refused as operands of binary operators that are no looser than it. -/
def RefusesBinary : Prop :=
  ∀ (rest : List TokenKind) (loosest : Nat), Unmarked (streamOf rest) →
    Stops (written.tightness + 1) (streamOf rest) → loosest ≤ written.tightness →
      TooDeep level (.binary loosest) (streamOf (written.kinds ++ rest))

/-- What is refused of a written expression in a construct of a level, whatever follows it; the
counterpart of `Readable`. -/
structure Unreadable : Prop where
  postfixed : 12 ≤ written.tightness → RefusesPostfixed level written
  unary : 11 ≤ written.tightness → RefusesUnary level written
  binary : 0 < written.tightness → RefusesBinary level written
  whole : ∀ rest : List TokenKind, Closes (streamOf rest) →
    TooDeep level .conditionalBody (streamOf (written.kinds ++ rest))

end Unreadable

section Classes

variable {level : Nat} {written : Written}

/-- An expression looser than a sign stands in no tighter place, so what the loop of operators refuses
is refused altogether. -/
theorem unreadable_of_binary (loose : written.tightness < 11)
    (binary : RefusesBinary level written) : Unreadable level written where
  postfixed tight := absurd tight (by omega)
  unary tight := absurd tight (by omega)
  binary _ := binary
  whole rest closes := by
    have stops := Grammar.stops_of_operatorAt (Grammar.operatorAt_of_closes closes)
    obtain ⟨column, fault⟩ :=
      binary rest 0 (Grammar.not_mark_of_closes closes) (stops _) (Nat.zero_le _)
    exact ⟨column, .conditionFault fault⟩

theorem unreadable_of_unary (postfixed : 12 ≤ written.tightness → RefusesPostfixed level written)
    (unary : RefusesUnary level written) : Unreadable level written where
  postfixed := postfixed
  unary _ := unary
  binary _ rest _ unmarked _ _ := by
    obtain ⟨column, fault⟩ := unary rest unmarked
    exact ⟨column, .leftFault fault⟩
  whole rest closes := by
    obtain ⟨column, fault⟩ := unary rest (Grammar.not_mark_of_closes closes)
    exact ⟨column, .conditionFault (.leftFault fault)⟩

/-- An operand with its assertions does not start with a prefix operator. -/
theorem prefixAt_streamOf_tight (placed : written.WellPlaced) (tight : 12 ≤ written.tightness)
    (rest : List TokenKind) : prefixAt (streamOf (written.kinds ++ rest)) = none := by
  induction written generalizing rest with
  | literal value => cases value <;> rfl
  | parenthesized => rfl
  | unary operator operand inductionHypothesis =>
    by_cases behind : operator = .nonNull
    · subst behind
      rw [Written.kinds, List.append_assoc]
      exact inductionHypothesis placed.2 placed.1 _
    · rw [Written.tightness, UnaryOperator.tightness_signed behind] at tight
      exact absurd tight (by decide)
  | binary operator =>
    have level := operator.precedence_le
    rw [Written.tightness] at tight
    omega
  | conditional => exact absurd tight (Nat.not_succ_le_zero 11)

theorem unreadable_of_postfixed (placed : written.WellPlaced) (tight : 12 ≤ written.tightness)
    (postfixed : RefusesPostfixed level written) : Unreadable level written := by
  refine unreadable_of_unary (fun _ => postfixed) fun rest _ => ?_
  obtain ⟨column, fault⟩ := postfixed rest
  exact ⟨column, .unsigned (prefixAt_streamOf_tight placed tight rest) fault⟩

end Classes

/-! ## Constructs -/

section Constructs

variable {level : Nat}

/-- A construct is refused on the next level, or there is no next level. -/
theorem tooDeep_conditional {inner : Written}
    (unreadable : level < nestingLimit → Unreadable (level + 1) inner) (rest : List TokenKind)
    (closes : Closes (streamOf rest)) :
    TooDeep level .conditional (streamOf (inner.kinds ++ rest)) := by
  by_cases room : level < nestingLimit
  · obtain ⟨column, fault⟩ := (unreadable room).whole rest closes
    exact ⟨column, .enter room fault⟩
  · exact ⟨_, .enterTooDeep room⟩

theorem refusesPostfixed_parenthesized {inner : Written}
    (unreadable : level < nestingLimit → Unreadable (level + 1) inner) :
    RefusesPostfixed level (.parenthesized inner) := by
  intro rest
  obtain ⟨column, fault⟩ :=
    tooDeep_conditional unreadable (.symbol .rightParen :: rest) closes_streamOf_closing
  rw [← advance_streamOf_cons (.symbol .leftParen)] at fault
  have operand := Reads.operandFault (.innerFault atSymbol_streamOf_cons fault)
  refine ⟨column, ?_⟩
  simpa only [Written.kinds, List.cons_append, List.append_assoc, List.nil_append] using operand

/-- Assertions only add to the height of the tree. -/
theorem refusesPostfixed_asserted {operand : Written} (tight : 12 ≤ operand.tightness)
    (fault : Unreadable level operand ∨
      Readable level operand ∧ ¬operand.tree.height + 1 ≤ nestingLimit) :
    RefusesPostfixed level (.unary .nonNull operand) := by
  intro rest
  have refused : TooDeep level .postfixed
      (streamOf (operand.kinds ++ .symbol .bangBang :: rest)) := by
    rcases fault with unreadable | ⟨readable, high⟩
    · exact unreadable.postfixed tight _
    · exact ⟨_, readable.postfixed tight _ _ (.markTooHigh atSymbol_streamOf_cons high)⟩
  simpa only [Written.kinds, List.append_assoc, List.cons_append, List.nil_append] using refused

theorem refusesUnary_signed {operator : UnaryOperator} {operand : Written}
    (before : operator ≠ .nonNull) (tight : 11 ≤ operand.tightness)
    (fault : level < nestingLimit → Unreadable (level + 1) operand ∨
      Readable (level + 1) operand ∧ ¬operand.tree.height + 1 ≤ nestingLimit) :
    RefusesUnary level (.unary operator operand) := by
  intro rest unmarked
  have isSign : prefixAt (streamOf (.symbol operator.symbol :: (operand.kinds ++ rest))) =
      some operator := prefixAt_streamOf_signed before
  rw [Written.kinds_signed before, List.cons_append]
  by_cases room : level < nestingLimit
  · rcases fault room with unreadable | ⟨readable, high⟩
    · obtain ⟨column, fault⟩ := unreadable.unary tight rest unmarked
      rw [← advance_streamOf_cons (.symbol operator.symbol)] at fault
      exact ⟨column, .signedFault isSign room fault⟩
    · have operandRead := readable.unary tight rest unmarked
      rw [← advance_streamOf_cons (.symbol operator.symbol)] at operandRead
      exact ⟨_, .signedTooHigh isSign room operandRead high⟩
  · exact ⟨_, .signTooDeep isSign room⟩

/-- The operand on the left is refused, or the one on the right, or else the operation. -/
theorem refusesBinary_binary {operator : BinaryOperator} {left right : Written}
    (leftTight : operator.precedence ≤ left.tightness)
    (rightTight : operator.precedence < right.tightness)
    (fault : Unreadable level left ∨ Readable level left ∧ (Unreadable level right ∨
      Readable level right ∧ ¬max left.tree.height right.tree.height + 1 ≤ nestingLimit)) :
    RefusesBinary level (.binary operator left right) := by
  intro rest loosest unmarked stops loose
  have positive := Nat.lt_of_lt_of_le operator.precedence_pos leftTight
  have leftLoose := Nat.le_trans loose leftTight
  have rightStops : Stops (right.tightness + 1) (streamOf rest) := fun next isNext =>
    Nat.lt_trans (stops next isNext) (Nat.succ_lt_succ rightTight)
  have leftStops : Stops (left.tightness + 1)
      (streamOf (.symbol operator.symbol :: (right.kinds ++ rest))) := by
    intro next isNext
    cases (operatorAt_streamOf_binary operator).symm.trans isNext
    exact Nat.lt_succ_of_le leftTight
  have isOperator : operatorAt (streamOf (.symbol operator.symbol :: (right.kinds ++ rest))) =
      some operator := operatorAt_streamOf_binary operator
  have refused : TooDeep level (.binary loosest)
      (streamOf (left.kinds ++ .symbol operator.symbol :: (right.kinds ++ rest))) := by
    rcases fault with unreadable | ⟨leftReadable, unreadable | ⟨rightReadable, high⟩⟩
    · exact unreadable.binary positive _ _ (unmarked_binary operator _) leftStops leftLoose
    · obtain ⟨column, fault⟩ := unreadable.binary (Nat.zero_lt_of_lt rightTight) rest _ unmarked
        rightStops rightTight
      rw [← advance_streamOf_cons (.symbol operator.symbol)] at fault
      exact ⟨column, leftReadable.binary positive _ _ _ (unmarked_binary operator _) leftStops
        leftLoose (.rightFault isOperator loose fault)⟩
    · have rightRead := rightReadable.binary (Nat.zero_lt_of_lt rightTight) rest _ _ unmarked
        rightStops rightTight (.stop stops)
      rw [← advance_streamOf_cons (.symbol operator.symbol)] at rightRead
      exact ⟨_, leftReadable.binary positive _ _ _ (unmarked_binary operator _) leftStops
        leftLoose (.operationTooHigh isOperator loose rightRead high)⟩
  simpa only [Written.kinds, List.append_assoc, List.cons_append] using refused

/-- The condition is refused, or a branch, or else the whole conditional. -/
theorem unreadable_conditional {condition thenBranch elseBranch : Written}
    (tight : 0 < condition.tightness)
    (fault : Unreadable level condition ∨ Readable level condition ∧
      ((level < nestingLimit → Unreadable (level + 1) thenBranch) ∨
        (level < nestingLimit ∧ Readable (level + 1) thenBranch) ∧
          (Unreadable (level + 1) elseBranch ∨ Readable (level + 1) elseBranch ∧
            ¬max (max condition.tree.height thenBranch.tree.height) elseBranch.tree.height + 1 ≤
              nestingLimit))) :
    Unreadable level (.conditional condition thenBranch elseBranch) where
  postfixed tight := absurd tight (Nat.not_succ_le_zero 11)
  unary tight := absurd tight (Nat.not_succ_le_zero 10)
  binary tight := absurd tight (Nat.lt_irrefl 0)
  whole rest closes := by
    rw [Written.kinds, List.append_assoc, List.cons_append, List.append_assoc, List.cons_append]
    rcases fault with unreadable | ⟨conditionReadable, fault⟩
    · obtain ⟨column, fault⟩ := unreadable.binary tight _ 0 rfl (stops_streamOf_question _)
        (Nat.zero_le _)
      exact ⟨column, .conditionFault fault⟩
    have conditionRead := conditionReadable.condition tight
      (thenBranch.kinds ++ .symbol .colon :: (elseBranch.kinds ++ rest))
    rcases fault with unreadable | ⟨⟨room, thenReadable⟩, fault⟩
    · obtain ⟨column, fault⟩ := tooDeep_conditional unreadable
        (.symbol .colon :: (elseBranch.kinds ++ rest)) closes_streamOf_colon
      rw [← advance_streamOf_cons (.symbol .question)] at fault
      exact ⟨column, .thenFault conditionRead atSymbol_streamOf_cons fault⟩
    have thenRead := thenReadable.whole (.symbol .colon :: (elseBranch.kinds ++ rest))
      closes_streamOf_colon
    rw [← advance_streamOf_cons (.symbol .question)] at thenRead
    rcases fault with unreadable | ⟨elseReadable, high⟩
    · obtain ⟨column, fault⟩ := tooDeep_conditional (fun _ => unreadable) rest closes
      rw [← advance_streamOf_cons (.symbol .colon)] at fault
      exact ⟨column, .elseFault conditionRead atSymbol_streamOf_cons (.enter room thenRead)
        atSymbol_streamOf_cons fault⟩
    · have elseRead := elseReadable.whole rest closes
      rw [← advance_streamOf_cons (.symbol .colon)] at elseRead
      exact ⟨_, .choiceTooHigh conditionRead atSymbol_streamOf_cons (.enter room thenRead)
        atSymbol_streamOf_cons (.enter room elseRead) high⟩

end Constructs

/-! ## Whole expressions -/

section Fits

variable {level : Nat}

theorem Fits.readable {written : Written} (fits : Fits level written)
    (placed : written.WellPlaced) : Readable level written :=
  readable_written written placed level fits.shallow fits.low

theorem fits_literal (inside : level ≤ nestingLimit) (value : Value) :
    Fits level (.literal value) where
  shallow := Nat.succ_le_succ inside
  low := by cases value <;> exact Nat.succ_pos 255

theorem fits_parenthesized {inner : Written} (fits : Fits (level + 1) inner) :
    Fits level (.parenthesized inner) where
  shallow := by
    have shallow := fits.shallow
    rw [Written.levels]
    omega
  low := fits.low

/-- The assertion comes behind its operand and enters no level, but its node has a height. -/
theorem fits_asserted {operand : Written} (fits : Fits level operand)
    (low : operand.tree.height + 1 ≤ nestingLimit) : Fits level (.unary .nonNull operand) where
  shallow := fits.shallow
  low := low

theorem fits_signed {operator : UnaryOperator} {operand : Written} (before : operator ≠ .nonNull)
    (fits : Fits (level + 1) operand) (low : operand.tree.height + 1 ≤ nestingLimit) :
    Fits level (.unary operator operand) where
  shallow := by
    have shallow := fits.shallow
    rw [Written.levels_signed before]
    omega
  low := low

theorem fits_binary (operator : BinaryOperator) {left right : Written} (leftFits : Fits level left)
    (rightFits : Fits level right)
    (low : max left.tree.height right.tree.height + 1 ≤ nestingLimit) :
    Fits level (.binary operator left right) where
  shallow := by
    have leftShallow := leftFits.shallow
    have rightShallow := rightFits.shallow
    rw [Written.levels]
    omega
  low := low

theorem fits_conditional {condition thenBranch elseBranch : Written}
    (conditionFits : Fits level condition) (thenFits : Fits (level + 1) thenBranch)
    (elseFits : Fits (level + 1) elseBranch)
    (low : max (max condition.tree.height thenBranch.tree.height) elseBranch.tree.height + 1 ≤
      nestingLimit) :
    Fits level (.conditional condition thenBranch elseBranch) where
  shallow := by
    have conditionShallow := conditionFits.shallow
    have thenShallow := thenFits.shallow
    have elseShallow := elseFits.shallow
    rw [Written.levels]
    omega
  low := low

/-- Only constructs within the limit have anything in them that fits. -/
theorem Fits.lt {written : Written} (fits : Fits (level + 1) written) : level < nestingLimit := by
  have shallow := fits.shallow
  have positive := written.levels_pos
  omega

end Fits

/-- A well-placed expression that does not fit is refused, by induction on the expression. Of its
parts, the first that does not fit is refused; when all fit, the tree of the whole is too high. -/
theorem unreadable_written (written : Written) (placed : written.WellPlaced) (level : Nat)
    (inside : level ≤ nestingLimit) (unfit : ¬Fits level written) : Unreadable level written := by
  induction written generalizing level with
  | literal value => exact absurd (fits_literal inside value) unfit
  | parenthesized inner inductionHypothesis =>
    have refuses : RefusesPostfixed level (.parenthesized inner) :=
      refusesPostfixed_parenthesized fun room =>
        inductionHypothesis placed (level + 1) room (mt fits_parenthesized unfit)
    exact unreadable_of_postfixed placed (Nat.le_succ 12) refuses
  | unary operator operand inductionHypothesis =>
    have tight := placed.1
    have operandPlaced := placed.2
    by_cases behind : operator = .nonNull
    · subst behind
      apply unreadable_of_postfixed placed (Nat.le_refl 12)
      apply refusesPostfixed_asserted tight
      by_cases fits : Fits level operand
      · exact .inr ⟨fits.readable operandPlaced, mt (fits_asserted fits) unfit⟩
      · exact .inl (inductionHypothesis operandPlaced level inside fits)
    · have loose := UnaryOperator.tightness_signed behind
      rw [loose] at tight
      refine unreadable_of_unary (fun asserted => ?_) ?_
      · rw [Written.tightness, loose] at asserted
        exact absurd asserted (by decide)
      apply refusesUnary_signed behind tight
      intro room
      by_cases fits : Fits (level + 1) operand
      · exact .inr ⟨fits.readable operandPlaced, mt (fits_signed behind fits) unfit⟩
      · exact .inl (inductionHypothesis operandPlaced (level + 1) room fits)
  | binary operator left right leftHypothesis rightHypothesis =>
    obtain ⟨leftTight, rightTight, leftPlaced, rightPlaced⟩ := placed
    have loose : (Written.binary operator left right).tightness < 11 :=
      Nat.lt_succ_of_le operator.precedence_le
    apply unreadable_of_binary loose
    apply refusesBinary_binary leftTight rightTight
    by_cases leftFits : Fits level left
    · refine .inr ⟨leftFits.readable leftPlaced, ?_⟩
      by_cases rightFits : Fits level right
      · exact .inr ⟨rightFits.readable rightPlaced,
          mt (fits_binary operator leftFits rightFits) unfit⟩
      · exact .inl (rightHypothesis rightPlaced level inside rightFits)
    · exact .inl (leftHypothesis leftPlaced level inside leftFits)
  | conditional condition thenBranch elseBranch conditionHypothesis thenHypothesis elseHypothesis =>
    obtain ⟨tight, conditionPlaced, thenPlaced, elsePlaced⟩ := placed
    apply unreadable_conditional tight
    by_cases conditionFits : Fits level condition
    · refine .inr ⟨conditionFits.readable conditionPlaced, ?_⟩
      by_cases thenFits : Fits (level + 1) thenBranch
      · refine .inr ⟨⟨thenFits.lt, thenFits.readable thenPlaced⟩, ?_⟩
        by_cases elseFits : Fits (level + 1) elseBranch
        · exact .inr ⟨elseFits.readable elsePlaced,
            mt (fits_conditional conditionFits thenFits elseFits) unfit⟩
        · exact .inl (elseHypothesis elsePlaced (level + 1) thenFits.lt elseFits)
      · exact .inl fun room => thenHypothesis thenPlaced (level + 1) room thenFits
    · exact .inl (conditionHypothesis conditionPlaced level inside conditionFits)

/-! ## Heights -/

/-- A recorded height is that of the tree, and within the limit. -/
structure Measured.Low (read : Measured) : Prop where
  height_eq : read.height = read.tree.height
  le : read.height ≤ nestingLimit

theorem height_of_leaf? {kind : TokenKind} {tree : Tree}
    (isLeaf : Parser.leaf? kind = some tree) : tree.height = 1 := by
  cases kind <;> cases isLeaf <;> rfl

/-- What a task is given on its left has a low tree. -/
def GivesLow : Task → Prop
  | .binaryTail _ given | .postfixTail given => given.Low
  | _ => True

/-- Whatever is read has a low tree, by induction on the rules of the reader. -/
theorem low_of_reads {depth : Nat} {task : Task} {stream rest : TokenStream} {read : Measured}
    {outcome : ReadOutcome} (reads : Reads depth task stream outcome) (givesLow : GivesLow task)
    (given : outcome = .ok (read, rest)) : read.Low := by
  induction reads generalizing read rest with
  | enter _ _ body => exact body trivial given
  | noQuestion _ _ condition =>
    cases given
    exact condition trivial rfl
  | choice _ _ _ _ _ low condition thenBranch elseBranch =>
    cases given
    have conditionLow := (condition trivial rfl).height_eq
    have thenLow := (thenBranch trivial rfl).height_eq
    have elseLow := (elseBranch trivial rfl).height_eq
    refine ⟨?_, low⟩
    simp only [Measured.conditional, Tree.height, conditionLow, thenLow, elseLow]
  | operands _ _ left tail => exact tail (left trivial rfl) given
  | stop =>
    cases given
    exact givesLow
  | operation _ _ _ low _ right tail =>
    have rightLow := (right trivial rfl).height_eq
    refine tail ⟨?_, low⟩ given
    simp only [Measured.binary, Tree.height, givesLow.height_eq, rightLow]
  | unsigned _ _ inner => exact inner trivial given
  | signed _ _ _ low operand =>
    cases given
    have operandLow := (operand trivial rfl).height_eq
    refine ⟨?_, low⟩
    simp only [Measured.unary, Tree.height, operandLow]
  | postfixed _ _ operand tail => exact tail (operand trivial rfl) given
  | noMark =>
    cases given
    exact givesLow
  | mark _ low _ tail =>
    refine tail ⟨?_, low⟩ given
    simp only [Measured.unary, Tree.height, givesLow.height_eq]
  | leaf isLeaf =>
    cases given
    have single := height_of_leaf? isLeaf
    exact ⟨single.symm, Nat.succ_pos 255⟩
  | parenthesized _ _ _ inner =>
    cases given
    exact inner trivial rfl
  | enterTooDeep | conditionFault | thenFault | noColon | elseFault | choiceTooHigh | leftFault
  | rightFault | operationTooHigh | signTooDeep | signedFault | signedTooHigh | operandFault
  | markTooHigh | innerFault | noClosing | noOperand => cases given

/-- Accepted trees are low enough to be walked by recursion. -/
theorem height_le_of_ofTokens {stream : TokenStream} {tree : Tree}
    (accepted : Tree.ofTokens stream = .ok tree) : tree.height ≤ nestingLimit := by
  rw [Grammar.ofTokens_eq] at accepted
  split at accepted
  · cases accepted
  rename_i read rest outcome
  have low := low_of_reads (Parser.reads_read 0 .conditional stream) trivial outcome
  split at accepted
  · cases accepted
    rw [← low.height_eq]
    exact low.le
  · cases accepted

/-! ## The cap -/

section Cap

variable {tokens : List Token} {last : Token} {tree : Tree} {written : Written}

/-- The reader gives the tree of a phrase, or refuses it for nesting too deeply. -/
theorem ofTokens_of_phrase (isEnd : last.kind = .endOfText)
    (phrase : Phrase .conditional tokens tree) :
    Tree.ofTokens (.ofInit tokens last) = .ok tree ∨
      ∃ column, Tree.ofTokens (.ofInit tokens last) = .error ⟨column, .tooDeep⟩ := by
  obtain ⟨outcome, reads, agrees⟩ :=
    Grammar.reads_of_climbs (Grammar.climbs_of_phrase isEnd phrase) 0
  rw [Grammar.ofTokens_eq, Parser.read_eq_of_reads reads]
  rcases agrees with rfl | ⟨column, rfl⟩
  · exact .inl (if_pos isEnd)
  · exact .inr ⟨column, rfl⟩

/-- Without its columns, a phrase up to the end of the text is the expression that is written. -/
theorem relocate_ofInit (isEnd : last.kind = .endOfText)
    (kinds : written.kinds = tokens.map Token.kind) :
    (TokenStream.ofInit tokens last).relocate (fun _ => 0) = streamOf written.kinds := by
  rw [ofInit_relocate, streamOf, kinds, List.map_map, Token.relocate, isEnd]
  rfl

/-- An expression that does not fit into its outermost construct is refused. -/
theorem ofTokens_streamOf_unfit (placed : written.WellPlaced) (unfit : ¬Fits 1 written) :
    ∃ fault, Tree.ofTokens (streamOf written.kinds) = .error fault := by
  have unreadable := unreadable_written written placed 1 (by decide) unfit
  obtain ⟨column, fault⟩ := tooDeep_conditional (fun _ => unreadable) [] (.inl rfl)
  rw [List.append_nil] at fault
  refine ⟨⟨column, .tooDeep⟩, ?_⟩
  rw [Grammar.ofTokens_eq, Parser.read_eq_of_reads fault]

/-- Nothing but the levels of a phrase and the height of its tree decides whether it is read. -/
theorem fits_iff (isEnd : last.kind = .endOfText) (phrase : Phrase .conditional tokens tree)
    (derives : Derives .conditional tokens tree written) :
    Fits 1 written ↔ Tree.ofTokens (.ofInit tokens last) = .ok tree := by
  have moved := ofTokens_relocate (fun _ => 0) (.ofInit tokens last)
  rw [relocate_ofInit isEnd derives.kinds] at moved
  rcases ofTokens_of_phrase isEnd phrase with accepted | ⟨column, refused⟩
  · rw [accepted] at moved
    refine iff_of_true ?_ accepted
    by_contra unfit
    obtain ⟨fault, failed⟩ := ofTokens_streamOf_unfit derives.placed unfit
    rw [failed] at moved
    cases moved
  · rw [refused] at moved
    refine iff_of_false ?_ (by rw [refused]; nofun)
    rintro ⟨shallow, low⟩
    rw [ofTokens_streamOf derives.placed (by omega) low] at moved
    cases moved

/-- The levels that are bounded are those of the constructs, as one would count them in the text. -/
theorem fits_iff_le (derives : Derives .conditional tokens tree written) :
    Fits 1 written ↔ (∀ level ∈ written.constructs, level ≤ 256) ∧ tree.height ≤ 256 := by
  have height : written.tree.height = tree.height := by
    rw [derives.tree, Tree.columnless, height_relocate]
  rw [Written.constructs, Written.forall_opened_le_iff, ← height]
  exact ⟨fun fits => ⟨fits.shallow, fits.low⟩, fun ⟨shallow, low⟩ => ⟨shallow, low⟩⟩

end Cap

/-- The cap on a phrase that is written down: it is read, to its own tree, just when no construct of
it has a level above 256 and its tree is no higher than 256, and otherwise it is refused for
nesting. -/
structure Capped (stream : TokenStream) (tree : Tree) (written : Written) : Prop where
  accepted : (∃ read, Tree.ofTokens stream = .ok read) ↔
    (∀ level ∈ written.constructs, level ≤ 256) ∧ tree.height ≤ 256
  read : ∀ read, Tree.ofTokens stream = .ok read → read = tree
  refused : ¬((∀ level ∈ written.constructs, level ≤ 256) ∧ tree.height ≤ 256) →
    ∃ fault, Tree.ofTokens stream = .error fault ∧
      fault.cause.message = "Expression nested too deeply"

/-- The cap on a stream: no tree higher than 256 is ever read, and where the stream is a phrase of
the grammar up to the end of the text, it is capped however it is written down. -/
structure NestingCap (stream : TokenStream) : Prop where
  low : ∀ tree, Tree.ofTokens stream = .ok tree → tree.height ≤ 256
  capped : ∀ tokens last tree, stream = .ofInit tokens last → last.kind = .endOfText →
    Phrase .conditional tokens tree →
      (∃ written, Derives .conditional tokens tree written) ∧
        ∀ written, Derives .conditional tokens tree written → Capped stream tree written

theorem capped_of_derives {tokens : List Token} {last : Token} {tree : Tree} {written : Written}
    (isEnd : last.kind = .endOfText) (phrase : Phrase .conditional tokens tree)
    (derives : Derives .conditional tokens tree written) :
    Capped (.ofInit tokens last) tree written := by
  have decided := (fits_iff isEnd phrase derives).symm.trans (fits_iff_le derives)
  rcases ofTokens_of_phrase isEnd phrase with accepted | ⟨column, refused⟩
  · have fits := decided.mp accepted
    refine ⟨iff_of_true ⟨tree, accepted⟩ fits, fun read given => ?_, absurd fits⟩
    rw [accepted] at given
    exact (Except.ok.inj given).symm
  · rw [refused] at decided
    have unfit := mt decided.mpr nofun
    refine ⟨iff_of_false ?_ unfit, fun read given => ?_, fun _ => ⟨_, refused, rfl⟩⟩
    · rintro ⟨read, given⟩
      rw [refused] at given
      cases given
    · rw [refused] at given
      cases given

/-- A phrase is accepted exactly if no construct of it and no node of its tree lies deeper than the
limit, and is refused for its depth otherwise. Levels are counted on derivations and not by the
reader. -/
theorem nesting_capped (stream : TokenStream) : NestingCap stream where
  low _ := height_le_of_ofTokens
  capped tokens last tree shape isEnd phrase := by
    subst shape
    exact ⟨exists_derives phrase, fun written => capped_of_derives isEnd phrase⟩

/-- The tokens of `(null)`, but for the end of the text. -/
def parenthesizedNull : List Token :=
  [⟨.symbol .leftParen, 1⟩, ⟨.null, 2⟩, ⟨.symbol .rightParen, 6⟩]

/-- What stands in parentheses has level two. -/
theorem nesting_capped_parenthesizedNull :
    Phrase .conditional parenthesizedNull .null ∧
      Derives .conditional parenthesizedNull .null (.parenthesized (.literal .null)) ∧
        Capped (.ofInit parenthesizedNull ⟨.endOfText, 7⟩) .null
          (.parenthesized (.literal .null)) := by
  have whole {tokens : List Token} {tree : Tree} (inner : Phrase .primary tokens tree) :
      Phrase .conditional tokens tree :=
    .unconditional (Grammar.phrase_loosen (.tightest (.unsigned (.bare inner))) (by decide)
      (by decide) (by decide))
  have inner : Phrase .conditional [⟨.null, 2⟩] .null := whole (.null rfl)
  have phrase : Phrase .conditional parenthesizedNull .null :=
    whole (.parenthesized rfl inner rfl)
  have derives : Derives .conditional parenthesizedNull .null (.parenthesized (.literal .null)) :=
    ⟨trivial, by decide, rfl, rfl⟩
  have capped := (nesting_capped (.ofInit parenthesizedNull ⟨.endOfText, 7⟩)).capped _ _ _ rfl rfl
    phrase
  exact ⟨phrase, derives, capped.2 _ derives⟩

end CompilerFront.Expr
