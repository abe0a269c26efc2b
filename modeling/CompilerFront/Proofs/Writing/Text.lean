import CompilerFront.Proofs.Layout.Spread
import CompilerFront.Proofs.Writing.Reading

/-!
Contract: every tree can be written down and read back.

Owns:
- `Written.text`, the tokens of a written expression with one blank between them, literals spelled
  as values are printed;
- `lex_spaced`, by which this text is cut into these tokens again;
- `written_restores`: a tree of half the greatest height is read back from the text with no more
  parentheses than are needed, and from any text with more of them within the limit on nesting.

A negative integer is no literal, so that trees with one have no text of their own.
-/

namespace CompilerFront.Expr

/-! ## Texts -/

/-- How a token is spelled: a literal as its value is printed. -/
def TokenKind.characters : TokenKind → List Char
  | .int number => (Value.int number).characters
  | .bool truth => (Value.bool truth).characters
  | .null => Value.null.characters
  | .string text => (Value.string text).characters
  | .symbol sign => sign.spelling
  | .endOfText => []

/-- A token that has a spelling: neither a negative integer nor the end of the text. -/
def TokenKind.Spellable : TokenKind → Prop
  | .int number => 0 ≤ number.toInt
  | .bool _ | .null | .string _ | .symbol _ => True
  | .endOfText => False

def spaced (kinds : List TokenKind) : List Char :=
  [' '].intercalate (kinds.map TokenKind.characters)

def Written.text (written : Written) : String := String.ofList (spaced written.kinds)

/-! ## Tokens again -/

section Tokens

variable {kind : TokenKind} {rest : List Char}

/-- A spelled token is cut off from what follows it. -/
theorem lexFrom_characters (spellable : kind.Spellable) (separate : Separate kind rest)
    (seen : List Token) (column : Nat) :
    lexFrom seen column (kind.characters ++ rest) =
      lexFrom (⟨kind, column⟩ :: seen) (column + kind.characters.length) rest := by
  cases kind with
  | int number =>
    have unsigned : (Value.int number).Unsigned := by
      rintro _ ⟨⟩
      exact spellable
    exact lexFrom_literal unsigned separate seen column
  | bool truth =>
    have unsigned : (Value.bool truth).Unsigned := fun _ other => nomatch other
    exact lexFrom_literal unsigned separate seen column
  | null =>
    have unsigned : Value.null.Unsigned := fun _ other => nomatch other
    exact lexFrom_literal unsigned separate seen column
  | string text =>
    have quoted := lexFrom_quote text.toList rest seen column
    rw [String.ofList_toList] at quoted
    exact quoted
  | symbol symbol => exact lexFrom_lexeme (.symbol symbol) separate
  | endOfText => exact spellable.elim

/-- A blank behind every token keeps any two of them apart. -/
theorem lexFrom_spaced {kinds : List TokenKind} (spellable : ∀ kind ∈ kinds, kind.Spellable)
    (seen : List Token) (column : Nat) :
    ∃ stream, lexFrom seen column (spaced kinds) = .ok stream ∧
      stream.relocate (fun _ => 0) = streamOf (seen.reverse.map Token.kind ++ kinds) := by
  induction kinds generalizing seen column with
  | nil =>
    refine ⟨_, lexFrom_nil, ?_⟩
    rw [ofInit_relocate, List.append_nil, streamOf, List.map_map]
    rfl
  | cons kind others inductionHypothesis =>
    rw [List.forall_mem_cons] at spellable
    obtain ⟨own, ownOthers⟩ := spellable
    have shiftSeen (start : Nat) :
        (List.reverse (⟨kind, start⟩ :: seen)).map Token.kind ++ others =
          seen.reverse.map Token.kind ++ kind :: others := by
      rw [List.reverse_cons, List.map_append, List.append_assoc]
      rfl
    cases others with
    | nil =>
      have token := lexFrom_characters own (separate_nil kind) seen column
      obtain ⟨stream, lexed, relocated⟩ := inductionHypothesis ownOthers (⟨kind, column⟩ :: seen)
        (column + kind.characters.length)
      rw [shiftSeen] at relocated
      refine ⟨stream, ?_, relocated⟩
      rw [spaced, List.map_singleton, List.intercalate_singleton, ← List.append_nil kind.characters]
      exact token.trans lexed
    | cons next later =>
      have blank : Gap [' '] (spaced (next :: later)) := .blank (by decide) .nil
      have separate : Separate kind ([' '] ++ spaced (next :: later)) :=
        separate_blank (by decide) kind _
      have token := lexFrom_characters own separate seen column
      rw [lexFrom_gap blank] at token
      obtain ⟨stream, lexed, relocated⟩ := inductionHypothesis ownOthers (⟨kind, column⟩ :: seen)
        (column + kind.characters.length + 1)
      rw [shiftSeen] at relocated
      refine ⟨stream, ?_, relocated⟩
      rw [spaced, List.map_cons, List.map_cons, List.intercalate_cons_cons, ← List.map_cons,
        List.append_assoc]
      exact token.trans lexed

end Tokens

/-- Spaced tokens are cut into the same tokens again. -/
theorem lex_spaced {kinds : List TokenKind} (spellable : ∀ kind ∈ kinds, kind.Spellable) :
    ∃ stream, lex (spaced kinds) = .ok stream ∧ stream.relocate (fun _ => 0) = streamOf kinds :=
  lexFrom_spaced spellable [] 1

/-- Without negative integers each token of an expression has a spelling. -/
theorem spellable_of_unsigned {written : Written} (unsigned : written.tree.Unsigned) :
    ∀ kind ∈ written.kinds, kind.Spellable := by
  induction written with
  | literal value =>
    rw [Written.kinds, List.forall_mem_singleton]
    cases value with
    | int => exact unsigned
    | bool | null | string => trivial
  | parenthesized inner inductionHypothesis =>
    simp only [Written.kinds, List.forall_mem_cons, List.forall_mem_append]
    exact ⟨trivial, inductionHypothesis unsigned, trivial, by simp⟩
  | unary operator operand inductionHypothesis =>
    have operandSpellable := inductionHypothesis unsigned
    by_cases behind : operator = .nonNull
    · subst behind
      simp only [Written.kinds, List.forall_mem_append, List.forall_mem_cons]
      exact ⟨operandSpellable, trivial, by simp⟩
    · rw [Written.kinds_signed behind, List.forall_mem_cons]
      exact ⟨trivial, operandSpellable⟩
  | binary operator left right leftHypothesis rightHypothesis =>
    simp only [Written.kinds, List.forall_mem_append, List.forall_mem_cons]
    exact ⟨leftHypothesis unsigned.1, trivial, rightHypothesis unsigned.2⟩
  | conditional condition thenBranch elseBranch conditionHypothesis thenHypothesis elseHypothesis =>
    simp only [Written.kinds, List.forall_mem_append, List.forall_mem_cons]
    exact ⟨conditionHypothesis unsigned.1, trivial, thenHypothesis unsigned.2.1, trivial,
      elseHypothesis unsigned.2.2⟩

/-! ## Reading back -/

/-- The text of a written expression is cut into tokens, and these are read to the tree up to
columns. -/
def Written.Restores (written : Written) (tree : Tree) : Prop :=
  ∃ stream read, lex written.text.toList = .ok stream ∧ Tree.ofTokens stream = .ok read ∧
    read.columnless = tree.columnless

/-- Within the limits every well-placed expression of a tree is read back to the tree. -/
theorem restores_of_wellPlaced {tree : Tree} {written : Written} (placed : written.WellPlaced)
    (same : written.tree = tree.columnless) (shallow : written.levels ≤ nestingLimit)
    (low : tree.height ≤ nestingLimit) (unsigned : tree.Unsigned) : written.Restores tree := by
  have writtenUnsigned : written.tree.Unsigned := same ▸ unsigned_relocate _ unsigned
  have writtenLow : written.tree.height ≤ nestingLimit := by
    rw [same, Tree.columnless, height_relocate]
    exact low
  obtain ⟨stream, lexed, relocated⟩ := lex_spaced (spellable_of_unsigned writtenUnsigned)
  have parsed := ofTokens_streamOf placed shallow writtenLow
  rw [← relocated, ofTokens_relocate] at parsed
  cases read : Tree.ofTokens stream with
  | error fault =>
    rw [read] at parsed
    cases parsed
  | ok found =>
    rw [read] at parsed
    refine ⟨stream, found, ?_, read, ?_⟩
    · rw [Written.text, String.toList_ofList, lexed]
    · rw [← same]
      exact Except.ok.inj parsed

/-- Every tree of half the greatest height can be written down and read back, with no more
parentheses than are needed or with any more of them that the limit on nesting allows. A node costs
two levels at most, its own and that of a parenthesis, hence the half. -/
theorem written_restores {tree : Tree} (low : tree.height ≤ 128) (unsigned : tree.Unsigned) :
    tree.written.Restores tree ∧
      ∀ wider, Adds tree.written wider → wider.levels ≤ 256 → wider.Restores tree := by
  have heightLow : tree.height ≤ nestingLimit := low.trans (by decide)
  have placed := tree.wellPlaced_written
  have levels : tree.written.levels < 2 * tree.height := tree.levels_written_lt
  have levelsLow : tree.written.levels ≤ 256 := by omega
  refine ⟨restores_of_wellPlaced placed tree.tree_written levelsLow heightLow unsigned, ?_⟩
  intro wider adds shallow
  have same : wider.tree = tree.columnless := adds.tree_eq.trans tree.tree_written
  exact restores_of_wellPlaced (adds.wellPlaced placed) same shallow heightLow unsigned

/-- A tree that needs parentheses around a condition, an operand of `!!` and an operand on the
right. -/
def nested : Tree :=
  .conditional (.conditional (.bool true) (.bool false) .null 0)
    (.unary .nonNull (.unary .negate (.int (.ofBits 1)) 0) 0)
    (.binary .subtract (.string "a\"b")
      (.binary .subtract (.int (.ofBits 2)) (.int (.ofBits 3)) 0) 0) 0

/-- The three operands that need a parenthesis have one, and a further pair around all of it changes
nothing. -/
theorem nested_restores :
    nested.written.text = "( true ? false : null ) ? ( - 1 ) !! : \"a\\\"b\" - ( 2 - 3 )" ∧
      nested.written.Restores nested ∧ (Written.parenthesized nested.written).Restores nested := by
  have low : nested.height ≤ 128 := by decide
  have unsigned : nested.Unsigned := by
    refine ⟨⟨trivial, trivial, trivial⟩, Int.one_nonneg, trivial, ?_, ?_⟩
    · exact Int.natCast_nonneg 2
    · exact Int.natCast_nonneg 3
  have adds : Adds nested.written (.parenthesized nested.written) := .around (.refl _)
  obtain ⟨needed, wider⟩ := written_restores low unsigned
  exact ⟨String.ofList_eq.mpr (by decide), needed, wider _ adds (by decide)⟩

end CompilerFront.Expr
