import Mathlib.Logic.Function.Basic
import CompilerFront.Proofs.Columns.Faults
import CompilerFront.Proofs.Layout.Relocation

/-!
Contract: layout between the tokens of an expression does not change what it means.

Owns:
- `Layout`, blanks and closed comments, and `Insertable`, the pieces of it that may be put in
  anywhere between lexemes: those that start with a blank;
- `Spread`, a text and the same text with such pieces put in;
- `segmentation_pad`, by which the spread text has the same lexemes behind wider gaps;
- `evaluate_spread`: both texts have the same tokens, the same tree and the same value, or the same
  fault at the same token.

A piece must start with a blank, for a slash before it would take a comment for its own.
-/

namespace CompilerFront.Expr

open Segment (characters tokens)

/-! ## Layout -/

/-- Blanks, line comments with the line feed that ends them, and block comments. -/
inductive Layout : List Char → Prop where
  | nil : Layout []
  | blank {first : Char} {others : List Char} (isBlank : Text.isBlank first = true)
      (goesOn : Layout others) : Layout (first :: others)
  | lineComment {body others : List Char} (oneLine : '\n' ∉ body) (goesOn : Layout others) :
      Layout ('/' :: '/' :: (body ++ '\n' :: others))
  | blockComment {body others : List Char} (unclosed : Unclosed body) (goesOn : Layout others) :
      Layout ('/' :: '*' :: (body ++ '*' :: '/' :: others))

/-- What may be put in behind a lexeme: nothing, or a blank with layout behind it. Without the blank
a comment could run into a slash. -/
inductive Insertable : List Char → Prop where
  | nothing : Insertable []
  | piece {first : Char} {others : List Char} (isBlank : Text.isBlank first = true)
      (layout : Layout others) : Insertable (first :: others)

theorem Insertable.layout {piece : List Char} (insertable : Insertable piece) : Layout piece := by
  cases insertable with
  | nothing => exact .nil
  | piece isBlank layout => exact .blank isBlank layout

/-- The segment with a piece put in before its gap. -/
def Segment.pad (piece : List Char) (segment : Segment) : Segment :=
  { segment with gap := piece ++ segment.gap }

/-- `Spread source target`: the target is the source with a piece put in at the start and behind
each lexeme, any of which may be nothing. -/
inductive Spread : List Char → List Char → Prop where
  | intro {segments : List Segment} {last final : List Char} {pieces : List (List Char)}
      (cut : Segmentation [] segments last) (onePerLexeme : pieces.length = segments.length)
      (insertable : ∀ piece ∈ pieces, Insertable piece) (finalInsertable : Insertable final) :
      Spread (characters segments last)
        (characters (List.zipWith Segment.pad pieces segments) (final ++ last))

/-! ## Gaps and lexemes with layout between them -/

section Gaps

variable {gap rest other : List Char}

/-- Layout in front of a gap makes it a wider gap. -/
theorem Layout.gap_append {layout : List Char} (isLayout : Layout layout) (isGap : Gap gap rest) :
    Gap (layout ++ gap) rest := by
  induction isLayout with
  | nil => exact isGap
  | blank isBlank _ wider => exact .blank isBlank wider
  | @lineComment body others oneLine _ wider =>
    have lineFeed : Gap ('\n' :: (others ++ gap)) rest := .blank (by decide) wider
    have ends : EndsLine ('\n' :: (others ++ gap) ++ rest) :=
      fun _ member => (Option.some.inj member).symm
    simpa only [List.cons_append, List.append_assoc] using Gap.lineComment oneLine ends lineFeed
  | blockComment unclosed _ wider =>
    simpa only [List.cons_append, List.append_assoc] using Gap.blockComment unclosed wider

/-- Of the text behind a gap only the first character counts. -/
theorem Gap.congr_head (same : other.head? = rest.head?) (isGap : Gap gap rest) :
    Gap gap other := by
  induction isGap with
  | nil => exact .nil
  | blank isBlank _ others => exact .blank isBlank (others same)
  | lineComment oneLine ends _ others =>
    refine .lineComment oneLine ?_ (others same)
    intro next member
    apply ends next
    rwa [List.head?_append, same, ← List.head?_append] at member
  | blockComment unclosed _ others => exact .blockComment unclosed (others same)

end Gaps

section Lexemes

variable {kind : TokenKind} {rest other : List Char}

/-- Of the text behind a token only the first character counts. -/
theorem Separate.congr_head (same : other.head? = rest.head?) (separate : Separate kind rest) :
    Separate kind other := by
  cases kind with
  | int _ | bool _ | null | symbol _ =>
    intro next member
    rw [same] at member
    exact separate next member
  | string _ | endOfText => trivial

theorem not_isBlank_of_mem_spelling {symbol : Symbol} {character : Char}
    (member : character ∈ symbol.spelling) : Text.isBlank character = false := by
  have visible : (symbol.spelling.all fun character => !Text.isBlank character) = true := by
    cases symbol <;> rfl
  have isVisible := List.all_eq_true.mp visible character member
  rwa [Bool.not_eq_true'] at isVisible

/-- Every token ends in front of a blank. -/
theorem separate_blank {first : Char} (isBlank : Text.isBlank first = true) (kind : TokenKind)
    (rest : List Char) : Separate kind (first :: rest) := by
  have noWord : EndsWord (first :: rest) := by
    rintro next ⟨⟩
    refine Bool.eq_false_iff.mpr fun inWord => ?_
    rw [(visible_of_isWordChar inWord).2] at isBlank
    cases isBlank
  cases kind with
  | int _ | bool _ | null => exact noWord
  | symbol symbol =>
    rintro next ⟨⟩
    refine ⟨fun longer spelled => ?_, fun _ => ⟨?_, ?_⟩⟩
    · have member : first ∈ longer.spelling := by
        rw [spelled]
        exact List.mem_append_right _ (List.mem_singleton_self first)
      rw [not_isBlank_of_mem_spelling member] at isBlank
      cases isBlank
    · rintro rfl
      exact absurd isBlank (by decide)
    · rintro rfl
      exact absurd isBlank (by decide)
  | string _ | endOfText => trivial

/-- Layout keeps tokens apart that were apart without it, since no token goes on with a blank or a
comment. -/
theorem Insertable.separate {piece : List Char} (insertable : Insertable piece)
    (separate : Separate kind rest) : Separate kind (piece ++ rest) := by
  cases insertable with
  | nothing => exact separate
  | piece isBlank => exact separate_blank isBlank kind _

theorem head?_append_lexeme {lexeme : List Char} (isLexeme : Lexeme lexeme kind) :
    (lexeme ++ other).head? = (lexeme ++ rest).head? := by
  obtain ⟨first, others, rfl⟩ := List.exists_cons_of_ne_nil isLexeme.ne_nil
  rfl

end Lexemes

/-! ## The segments of a spread text -/

section Padding

variable {segments : List Segment} {last final : List Char} {pieces : List (List Char)}

/-- A token that ends in front of the rest of a text ends in front of the spread rest. -/
theorem separate_pad {kind : TokenKind} (cut : Segmentation [] segments last)
    (onePerLexeme : pieces.length = segments.length)
    (insertable : ∀ piece ∈ pieces, Insertable piece) (finalInsertable : Insertable final)
    (separate : Separate kind (characters segments last)) :
    Separate kind (characters (List.zipWith Segment.pad pieces segments) (final ++ last)) := by
  cases cut with
  | last =>
    rw [List.zipWith_nil_right]
    exact finalInsertable.separate separate
  | @next segment others _ _ isLexeme =>
    obtain ⟨piece, more, rfl⟩ := List.exists_cons_of_length_eq_add_one onePerLexeme
    rw [List.zipWith_cons_cons, Segment.characters_cons, Segment.pad, List.append_assoc]
    refine (insertable piece List.mem_cons_self).separate ?_
    rw [Segment.characters_cons] at separate
    refine separate.congr_head ?_
    rw [List.head?_append, head?_append_lexeme isLexeme, ← List.head?_append]

/-- With layout put in, the lexemes are the same and the gaps are wider. -/
theorem segmentation_pad (cut : Segmentation [] segments last)
    (onePerLexeme : pieces.length = segments.length)
    (insertable : ∀ piece ∈ pieces, Insertable piece) (finalInsertable : Insertable final) :
    Segmentation [] (List.zipWith Segment.pad pieces segments) (final ++ last) := by
  induction cut generalizing pieces with
  | last isGap =>
    rw [List.zipWith_nil_right]
    exact .last (finalInsertable.layout.gap_append isGap)
  | @next segment others last isGap isLexeme separate cut inductionHypothesis =>
    obtain ⟨piece, more, rfl⟩ := List.exists_cons_of_length_eq_add_one onePerLexeme
    rw [List.forall_mem_cons] at insertable
    have sameLength := Nat.succ.inj onePerLexeme
    rw [List.append_nil] at isGap separate
    rw [List.zipWith_cons_cons]
    refine .next ?_ isLexeme ?_ (inductionHypothesis sameLength insertable.2)
    · exact insertable.1.layout.gap_append (isGap.congr_head (head?_append_lexeme isLexeme))
    · rw [List.append_nil]
      exact separate_pad cut sameLength insertable.2 finalInsertable separate

theorem map_kind_pad (onePerLexeme : pieces.length = segments.length) :
    (List.zipWith Segment.pad pieces segments).map Segment.kind = segments.map Segment.kind := by
  induction segments generalizing pieces with
  | nil => rw [List.zipWith_nil_right]
  | cons segment others inductionHypothesis =>
    obtain ⟨piece, more, rfl⟩ := List.exists_cons_of_length_eq_add_one onePerLexeme
    rw [List.zipWith_cons_cons, List.map_cons, List.map_cons,
      inductionHypothesis (Nat.succ.inj onePerLexeme), Segment.pad]

end Padding

/-! ## Tokens of both texts -/

/-- Two rows of tokens of the same kinds differ in their columns alone. -/
theorem exists_relocation {row other : List Token}
    (kinds : other.map Token.kind = row.map Token.kind)
    (ascending : row.Pairwise fun left right => left.column < right.column) :
    ∃ move, other = row.map (Token.relocate move) := by
  induction row generalizing other with
  | nil => exact ⟨id, List.map_eq_nil_iff.mp kinds⟩
  | cons token row inductionHypothesis =>
    cases other with
    | nil => cases kinds
    | cons moved other =>
      rw [List.map_cons, List.map_cons, List.cons.injEq] at kinds
      rw [List.pairwise_cons] at ascending
      obtain ⟨move, rfl⟩ := inductionHypothesis kinds.2 ascending.2
      refine ⟨Function.update move token.column moved.column, ?_⟩
      rw [List.map_cons, List.cons.injEq]
      constructor
      · rw [Token.relocate, Function.update_self, ← kinds.1]
      · refine List.map_congr_left fun later member => ?_
        have different := (ascending.1 later member).ne'
        rw [Token.relocate, Token.relocate, Function.update_of_ne different]

/-- A text and its spread text are lexed to streams that differ in their columns alone. -/
theorem lex_spread {source target : List Char} (spread : Spread source target) :
    ∃ stream move, lex source = .ok stream ∧ lex target = .ok (stream.relocate move) := by
  cases spread with
  | @intro segments last final pieces cut onePerLexeme insertable finalInsertable =>
    have wider := segmentation_pad cut onePerLexeme insertable finalInsertable
    have ascending := (cutInto_of_segmentation cut).ascending
    have kinds := (cutInto_of_segmentation wider).kinds
    rw [map_kind_pad onePerLexeme, ← (cutInto_of_segmentation cut).kinds] at kinds
    obtain ⟨move, moved⟩ := exists_relocation kinds ascending
    refine ⟨_, move, lex_segments cut, ?_⟩
    rw [lex_segments wider, ofInit_relocate]
    rw [List.map_append, List.map_singleton] at moved
    obtain ⟨sameTokens, sameEnd⟩ := List.append_inj' moved rfl
    rw [sameTokens, List.singleton_inj.mp sameEnd]

/-- The columns are those of the tokens at one and the same place of two streams. -/
def Corresponds (stream other : TokenStream) (column moved : Nat) : Prop :=
  ∃ (place : Nat) (token counterpart : Token), stream.toList[place]? = some token ∧
    other.toList[place]? = some counterpart ∧ token.kind = counterpart.kind ∧
      column = token.column ∧ moved = counterpart.column

theorem corresponds_relocate {stream : TokenStream} {token : Token} (move : Nat → Nat)
    (member : token ∈ stream.toList) :
    Corresponds stream (stream.relocate move) token.column (move token.column) := by
  obtain ⟨place, found⟩ := List.mem_iff_getElem?.mp member
  refine ⟨place, token, token.relocate move, found, ?_, rfl, rfl, rfl⟩
  rw [toList_relocate, List.getElem?_map, found, Option.map_some]

/-! ## Meaning -/

/-- Two outcomes are alike: results that are the same, or faults of one cause at columns that
correspond. -/
def Alike {Cause Result : Type} (same : Result → Result → Prop) (columns : Nat → Nat → Prop) :
    Except (Located Cause) Result → Except (Located Cause) Result → Prop
  | .ok left, .ok right => same left right
  | .error left, .error right => left.cause = right.cause ∧ columns left.column right.column
  | _, _ => False

/-- What it means that two texts say the same, the first of which is lexed to a stream: the tokens
have the same kinds, they are read to trees that are the same up to columns, and the values are the
same. What is wrong with one of the texts is wrong with the other, at the token that corresponds. -/
structure SaysTheSame (source target : String) (stream moved : TokenStream) : Prop where
  lexed : lex target.toList = .ok moved
  kinds : moved.toList.map Token.kind = stream.toList.map Token.kind
  read : Alike (fun left right => left.columnless = right.columnless) (Corresponds stream moved)
    (Tree.ofTokens stream) (Tree.ofTokens moved)
  value : Alike (· = ·) (Corresponds stream moved) (evaluate source) (evaluate target)

section Meaning

variable {source target : String} {stream : TokenStream} {move : Nat → Nat}

/-- The parser asks for kinds only and copies columns, so moving them moves its trees and its
faults. -/
theorem alike_ofTokens (lexed : lex source.toList = .ok stream) :
    Alike (fun left right => left.columnless = right.columnless)
      (Corresponds stream (stream.relocate move)) (Tree.ofTokens stream)
      (Tree.ofTokens (stream.relocate move)) := by
  have row := ofTokens_of_lex lexed
  rw [ofTokens_relocate]
  cases read : Tree.ofTokens stream with
  | ok tree => exact (columnless_relocate move tree).symm
  | error fault =>
    rw [read] at row
    obtain ⟨token, member, column, -⟩ := row
    refine ⟨rfl, ?_⟩
    rw [Located.relocate, column]
    exact corresponds_relocate move member

/-- A computational fault is reported at a token. -/
theorem exists_token_of_computation {tree : Tree} {fault : Located ComputationFault}
    (lexed : lex source.toList = .ok stream) (read : Tree.ofTokens stream = .ok tree)
    (failed : tree.evaluate = .error fault) :
    ∃ token ∈ stream.toList, fault.column = token.column := by
  have reported : evaluate source = .error ⟨fault.column, .computational fault.cause⟩ := by
    simp only [evaluate, lexed, read, failed, Located.map]
  obtain ⟨column, cause⟩ := fault
  cases pointsAt_of_evaluate reported with
  | computational sameLexed _ _ member =>
    cases lexed.symm.trans sameLexed
    exact ⟨_, member, rfl⟩

/-- Evaluation never looks at a column, except to report it. -/
theorem alike_evaluate (lexed : lex source.toList = .ok stream)
    (lexedTarget : lex target.toList = .ok (stream.relocate move)) :
    Alike (· = ·) (Corresponds stream (stream.relocate move)) (evaluate source)
      (evaluate target) := by
  have row := ofTokens_of_lex lexed
  simp only [evaluate, lexed, lexedTarget, ofTokens_relocate]
  cases read : Tree.ofTokens stream with
  | error fault =>
    rw [read] at row
    obtain ⟨token, member, column, -⟩ := row
    refine ⟨rfl, ?_⟩
    rw [Located.map, Located.map, Located.relocate, column]
    exact corresponds_relocate move member
  | ok tree =>
    simp only [evaluate_relocate]
    cases evaluated : tree.evaluate with
    | ok value => rfl
    | error fault =>
      obtain ⟨token, member, column⟩ := exists_token_of_computation lexed read evaluated
      refine ⟨rfl, ?_⟩
      rw [Located.map, Located.map, Located.relocate, column]
      exact corresponds_relocate move member

end Meaning

/-- Layout that is put in at the start of a text or behind its lexemes changes nothing but columns.
The text spread out has the tokens of the other one with moved columns, and neither the parser nor
the evaluator looks at a column. -/
theorem evaluate_spread {source target : String} {stream : TokenStream}
    (lexed : lex source.toList = .ok stream) (spread : Spread source.toList target.toList) :
    ∃ moved, SaysTheSame source target stream moved := by
  obtain ⟨sameStream, move, sameLexed, lexedTarget⟩ := lex_spread spread
  cases lexed.symm.trans sameLexed
  refine ⟨stream.relocate move, lexedTarget, ?_, alike_ofTokens lexed,
    alike_evaluate lexed lexedTarget⟩
  rw [toList_relocate, List.map_map]
  rfl

/-- The segments of `1/0`. -/
def division : List Segment :=
  [⟨[], ['1'], .int (.ofBits 1)⟩, ⟨[], ['/'], .symbol .slash⟩,
    ⟨[], ['0'], .int (.ofBits 0)⟩]

theorem segmentation_division : Segmentation [] division [] := by
  have one : Lexeme ['1'] (.int (.ofBits 1)) :=
    .number rfl (fun _ member => nomatch member) rfl
  have zero : Lexeme ['0'] (.int (.ofBits 0)) :=
    .number rfl (fun _ member => nomatch member) rfl
  have wordEnds : EndsWord ['/', '0'] := by
    rintro next ⟨⟩
    rfl
  have slashEnds : ∀ next ∈ ['0'].head?, Symbol.slash.EndsBefore next := by
    rintro next ⟨⟩
    refine ⟨fun longer spelled => ?_, fun _ => by decide⟩
    cases longer <;> cases spelled
  exact .next .nil one wordEnds (.next .nil (.symbol .slash) slashEnds
    (.next .nil zero (separate_nil _) (.last .nil)))

/-- A division by zero is one at the slash, also when the slash stands behind comments that hold
slashes. -/
theorem evaluate_spread_division :
    ∃ stream, lex "1/0".toList = .ok stream ∧
      Spread "1/0".toList " 1 /*/*/// /\n/\n0".toList ∧
        ∃ moved, SaysTheSame "1/0" " 1 /*/*/// /\n/\n0" stream moved := by
  have lineComment : Layout ('/' :: '/' :: ([' ', '/'] ++ ['\n'])) := .lineComment (by decide) .nil
  have comments :
      Layout ('/' :: '*' :: (['/'] ++ '*' :: '/' :: ('/' :: '/' :: [' ', '/', '\n']))) :=
    .blockComment (unclosed_cons_iff.mpr ⟨by simp, unclosed_nil⟩) lineComment
  have insertable : ∀ piece ∈ [[' '], ' ' :: '/' :: '*' :: '/' :: '*' :: '/' :: '/' :: '/' ::
      [' ', '/', '\n'], ['\n']], Insertable piece := by
    simp only [List.forall_mem_cons, List.not_mem_nil, false_implies, implies_true, and_true]
    exact ⟨.piece (by decide) .nil, .piece (by decide) comments, .piece (by decide) .nil⟩
  have spread : Spread "1/0".toList " 1 /*/*/// /\n/\n0".toList :=
    .intro segmentation_division rfl insertable .nothing
  have lexed := lex_segments segmentation_division
  exact ⟨_, lexed, spread, evaluate_spread lexed spread⟩

end CompilerFront.Expr
