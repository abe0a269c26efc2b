import CompilerFront.Proofs.Segmentation.Lexeme

/-!
Contract: a text is cut into tokens without loss, and each token is as long as it can be.

Owns:
- `Segment`, a token's characters with the gap before them, and `Segmentation`, rows of these;
- `lexFrom_segments`, by which a row of segments is lexed as the tokens of its lexemes;
- `Offends`, what cannot be lexed, and `exists_offending`, by which every text is such a row up to
  its end or up to that;
- `lex_segmentation`, what the lexer makes of a whole text.
-/

namespace CompilerFront.Expr

/-! ## Segments -/

/-- The characters of a token, the gap before them, and what the token is. -/
structure Segment where
  gap : List Char
  lexeme : List Char
  kind : TokenKind

namespace Segment

def characters (segments : List Segment) (behind : List Char) : List Char :=
  segments.foldr (fun segment rest => segment.gap ++ (segment.lexeme ++ rest)) behind

def tokens (column : Nat) : List Segment → List Token
  | [] => []
  | segment :: others =>
    ⟨segment.kind, column + segment.gap.length⟩ ::
      tokens (column + segment.gap.length + segment.lexeme.length) others

theorem characters_cons (segment : Segment) (others : List Segment) (behind : List Char) :
    characters (segment :: others) behind =
      segment.gap ++ (segment.lexeme ++ characters others behind) := rfl

theorem characters_append_text (segments : List Segment) (behind more : List Char) :
    characters segments (behind ++ more) = characters segments behind ++ more := by
  induction segments with
  | nil => rfl
  | cons segment others inductionHypothesis =>
    simp only [characters_cons, inductionHypothesis, List.append_assoc]

theorem tokens_append (column : Nat) (before after : List Segment) :
    tokens column (before ++ after) =
      tokens column before ++ tokens (column + (characters before []).length) after := by
  induction before generalizing column with
  | nil => rfl
  | cons segment others inductionHypothesis =>
    rw [List.cons_append, tokens, tokens, inductionHypothesis, List.cons_append, characters_cons]
    simp only [List.length_append]
    congr 3
    omega

theorem map_kind_tokens (column : Nat) (segments : List Segment) :
    (tokens column segments).map Token.kind = segments.map Segment.kind := by
  induction segments generalizing column with
  | nil => rfl
  | cons segment others inductionHypothesis =>
    rw [tokens, List.map_cons, List.map_cons, inductionHypothesis]

end Segment

open Segment (characters tokens)

/-- Gaps and lexemes in turn, a gap last, each as it must be in front of what follows it; a text
stands behind them all. -/
inductive Segmentation (behind : List Char) : List Segment → List Char → Prop where
  | last {gap : List Char} (isGap : Gap gap behind) : Segmentation behind [] gap
  | next {segment : Segment} {others : List Segment} {last : List Char}
      (isGap : Gap segment.gap (segment.lexeme ++ characters others (last ++ behind)))
      (isLexeme : Lexeme segment.lexeme segment.kind)
      (separate : Separate segment.kind (characters others (last ++ behind)))
      (segmentation : Segmentation behind others last) :
      Segmentation behind (segment :: others) last

/-- A segmentation stays one when the text behind it is cut off. -/
theorem Segmentation.cut {behind last : List Char} {segments : List Segment}
    (segmentation : Segmentation behind segments last) : Segmentation [] segments last := by
  induction segmentation with
  | @last gap isGap =>
    have nothingBehind : Gap gap ([] ++ behind) := isGap
    exact .last nothingBehind.cut
  | next isGap isLexeme separate _ inductionHypothesis =>
    rw [Segment.characters_append_text] at isGap separate
    rw [← List.append_assoc] at isGap
    refine .next ?_ isLexeme ?_ inductionHypothesis
    · rw [List.append_nil]
      exact isGap.cut
    · rw [List.append_nil]
      exact separate.cut

/-! ## Lexing segments -/

section Lexing

variable {seen : List Token} {column : Nat} {behind last : List Char} {segments : List Segment}

/-- The lexer, one token at a time: all that is needed of its recursion. -/
theorem lexFrom_eq (text : List Char) :
    lexFrom seen column text =
      match skipGap .between column text with
      | .error fault => .error fault
      | .ok (start, []) => .ok (.ofInit seen.reverse ⟨.endOfText, start⟩)
      | .ok (start, first :: rest) =>
        match readToken first rest with
        | .error cause => .error ⟨start, cause⟩
        | .ok scanned =>
          lexFrom (⟨scanned.value, start⟩ :: seen) (start + scanned.width) scanned.rest := by
  conv_lhs => rw [lexFrom]
  split
  · rename_i skipped
    rw [skipped]
  · rename_i skipped
    rw [skipped]
  · rename_i skipped
    rw [skipped]
    split
    · rename_i failed
      simp only [failed]
    · rename_i read
      simp only [read]

/-- A visible text starts with a token, or with the fault of one. -/
theorem lexFrom_visible {first : Char} {rest : List Char} (visible : Visible (first :: rest)) :
    lexFrom seen column (first :: rest) =
      match readToken first rest with
      | .error cause => .error ⟨column, cause⟩
      | .ok scanned =>
        lexFrom (⟨scanned.value, column⟩ :: seen) (column + scanned.width) scanned.rest := by
  rw [lexFrom_eq, skipGap_visible visible]

theorem lexFrom_gap {gap rest : List Char} (isGap : Gap gap rest) :
    lexFrom seen column (gap ++ rest) = lexFrom seen (column + gap.length) rest := by
  rw [lexFrom_eq, lexFrom_eq, skipGap_gap isGap]

theorem lexFrom_lexeme {lexeme rest : List Char} {kind : TokenKind}
    (isLexeme : Lexeme lexeme kind) (separate : Separate kind rest) :
    lexFrom seen column (lexeme ++ rest) =
      lexFrom (⟨kind, column⟩ :: seen) (column + lexeme.length) rest := by
  obtain ⟨first, others, rfl, visible, read⟩ := readToken_lexeme isLexeme separate
  rw [List.cons_append] at visible ⊢
  rw [lexFrom_visible visible, read]

/-- Lexing goes over a row of segments and has seen their tokens behind it. -/
theorem lexFrom_segments (segmentation : Segmentation behind segments last) :
    lexFrom seen column (characters segments (last ++ behind)) =
      lexFrom ((tokens column segments).reverse ++ seen)
        (column + (characters segments last).length) behind := by
  induction segmentation generalizing seen column with
  | last isGap => exact lexFrom_gap isGap
  | next isGap isLexeme separate _ inductionHypothesis =>
    rw [Segment.characters_cons, lexFrom_gap isGap, lexFrom_lexeme isLexeme separate,
      inductionHypothesis, Segment.characters_cons, tokens, List.reverse_cons, List.append_assoc,
      List.singleton_append]
    simp only [List.length_append, Nat.add_assoc]

/-- By induction on the segments, which is how the lexer itself goes along the text. -/
theorem lex_segments (segmentation : Segmentation [] segments last) :
    lex (characters segments last) =
      .ok (.ofInit (tokens 1 segments)
        ⟨.endOfText, (characters segments last).length + 1⟩) := by
  have lexed : lexFrom [] 1 (characters segments (last ++ [])) = _ := lexFrom_segments segmentation
  rw [List.append_nil, List.append_nil, lexFrom_nil, List.reverse_reverse] at lexed
  rw [lex, lexed, Nat.add_comm]

end Lexing

/-! ## Segments of a text -/

/-- A text starts with what cannot be lexed, for a cause: with a comment that is not closed, or with
a lexeme that is no token. -/
inductive Offends : List Char → LexicalFault → Prop where
  | comment {text : List Char} (opens : OpensComment text) : Offends text .unterminatedComment
  | lexeme {first : Char} {rest : List Char} {cause : LexicalFault}
      (visible : Visible (first :: rest)) (fails : readToken first rest = .error cause) :
      Offends (first :: rest) cause

/-- Lexing fails at the first character of a text, wherever the text stands. -/
def FailsAtHead (text : List Char) (cause : LexicalFault) : Prop :=
  text ≠ [] ∧ ∀ seen column, lexFrom seen column text = .error ⟨column, cause⟩

/-- Each offence is found at the first character, whatever has been read before. -/
theorem failsAtHead_of_offends {text : List Char} {cause : LexicalFault}
    (offends : Offends text cause) : FailsAtHead text cause := by
  cases offends with
  | comment opens =>
    constructor
    · rintro rfl
      obtain ⟨comment, shape, -⟩ := opens
      cases shape
    · intro seen column
      rw [lexFrom_eq, skipGap_opensComment opens]
  | lexeme visible fails =>
    refine ⟨List.cons_ne_nil _ _, fun seen column => ?_⟩
    rw [lexFrom_visible visible, fails]

/-- Every text is a row of segments up to its end, or up to what cannot be lexed. -/
theorem exists_offending (text : List Char) :
    ∃ segments last behind, text = characters segments (last ++ behind) ∧
      Segmentation behind segments last ∧ (behind = [] ∨ ∃ cause, Offends behind cause) := by
  induction size : text.length using Nat.strongRecOn generalizing text with
  | ind size inductionHypothesis =>
    subst size
    obtain ⟨gap, rest, rfl, isGap, visible | opens⟩ := exists_gap text
    rotate_left
    · exact ⟨[], gap, rest, rfl, .last isGap, .inr ⟨_, .comment opens⟩⟩
    cases rest with
    | nil => exact ⟨[], gap, [], rfl, .last isGap, .inl rfl⟩
    | cons first others =>
      cases read : readToken first others with
      | error cause =>
        exact ⟨[], gap, first :: others, rfl, .last isGap, .inr ⟨cause, .lexeme visible read⟩⟩
      | ok scanned =>
        obtain ⟨lexeme, split_eq, isLexeme, separate⟩ := lexeme_of_readToken visible read
        obtain ⟨more, last, behind, rest_eq, segmentation, stops⟩ :=
          inductionHypothesis scanned.rest.length (by
            have shorter := length_rest_readToken read
            simp only [List.length_append, List.length_cons]
            omega) scanned.rest rfl
        rw [rest_eq] at split_eq separate
        rw [split_eq] at isGap ⊢
        exact ⟨⟨gap, lexeme, scanned.value⟩ :: more, last, behind, rfl,
          .next isGap isLexeme separate segmentation, stops⟩

/-- Every text is a row of segments up to its end, or up to where lexing fails. -/
theorem exists_segmentation (text : List Char) :
    ∃ segments last behind, text = characters segments (last ++ behind) ∧
      Segmentation behind segments last ∧
        (behind = [] ∨ ∃ cause, FailsAtHead behind cause) := by
  obtain ⟨segments, last, behind, shape, segmentation, stops⟩ := exists_offending text
  refine ⟨segments, last, behind, shape, segmentation, stops.imp_right ?_⟩
  rintro ⟨cause, offends⟩
  exact ⟨cause, failsAtHead_of_offends offends⟩

/-! ## Single segments -/

theorem Lexeme.ne_nil {lexeme : List Char} {kind : TokenKind} (isLexeme : Lexeme lexeme kind) :
    lexeme ≠ [] := by
  obtain ⟨first, others, rfl, -, -⟩ := readToken_lexeme isLexeme (separate_nil kind)
  exact List.cons_ne_nil first others

theorem Lexeme.ne_endOfText {lexeme : List Char} {kind : TokenKind}
    (isLexeme : Lexeme lexeme kind) : kind ≠ .endOfText := by
  rintro rfl
  cases isLexeme with
  | keyword isKeyword =>
    rcases keyword?_eq_some isKeyword with ⟨-, absurdity⟩ | ⟨-, absurdity⟩ | ⟨-, absurdity⟩
    all_goals cases absurdity

/-- A lexeme by itself is lexed as the one token that it is. -/
theorem lex_lexeme {lexeme : List Char} {kind : TokenKind} (isLexeme : Lexeme lexeme kind) :
    lex lexeme = .ok (.ofInit [⟨kind, 1⟩] ⟨.endOfText, lexeme.length + 1⟩) := by
  have alone : Segmentation [] [⟨[], lexeme, kind⟩] [] :=
    .next .nil isLexeme (separate_nil kind) (.last .nil)
  have lexed := lex_segments alone
  rw [Segment.characters_cons, List.nil_append, Segment.characters, List.foldr_nil,
    List.append_nil] at lexed
  exact lexed

theorem Segmentation.at {behind last : List Char} {before after : List Segment}
    {segment : Segment} (segmentation : Segmentation behind (before ++ segment :: after) last) :
    Gap segment.gap (segment.lexeme ++ characters after (last ++ behind)) ∧
      Lexeme segment.lexeme segment.kind ∧
        Separate segment.kind (characters after (last ++ behind)) := by
  induction before with
  | nil =>
    cases segmentation with
    | next isGap isLexeme separate _ => exact ⟨isGap, isLexeme, separate⟩
  | cons first others inductionHypothesis =>
    cases segmentation with
    | next _ _ _ segmentation => exact inductionHypothesis segmentation

theorem Segmentation.lexeme_of_mem {behind last : List Char} {segments : List Segment}
    (segmentation : Segmentation behind segments last) :
    ∀ segment ∈ segments, Lexeme segment.lexeme segment.kind := by
  intro segment member
  obtain ⟨before, after, rfl⟩ := List.append_of_mem member
  exact segmentation.at.2.1

theorem Segmentation.lastGap {behind last : List Char} {segments : List Segment}
    (segmentation : Segmentation behind segments last) : Gap last behind := by
  induction segmentation with
  | last isGap => exact isGap
  | next _ _ _ _ inductionHypothesis => exact inductionHypothesis

/-! ## Columns -/

theorem length_tokens (column : Nat) (segments : List Segment) :
    (tokens column segments).length = segments.length := by
  rw [← List.length_map Token.kind, Segment.map_kind_tokens, List.length_map]

theorem length_characters (segments : List Segment) (behind : List Char) :
    (characters segments behind).length = (characters segments []).length + behind.length := by
  rw [← List.length_append, ← Segment.characters_append_text, List.nil_append]

/-- A token has the column behind all that stands before its lexeme. -/
theorem getElem?_tokens (column : Nat) (before after : List Segment) (segment : Segment) :
    (tokens column (before ++ segment :: after))[before.length]? =
      some ⟨segment.kind, column + (characters before segment.gap).length⟩ := by
  rw [Segment.tokens_append, List.getElem?_append_right (length_tokens column before).le,
    length_tokens, Nat.sub_self, tokens, List.getElem?_cons_zero,
    length_characters before segment.gap, Nat.add_assoc]

theorem column_lt_of_mem_tokens {segments : List Segment} {column : Nat}
    (nonempty : ∀ segment ∈ segments, segment.lexeme ≠ []) :
    ∀ token ∈ tokens column segments, column ≤ token.column ∧
      token.column < column + (characters segments []).length := by
  induction segments generalizing column with
  | nil => exact fun _ member => nomatch member
  | cons segment others inductionHypothesis =>
    rw [List.forall_mem_cons] at nonempty
    have positive := List.length_pos_iff.mpr nonempty.1
    rw [tokens, List.forall_mem_cons]
    simp only [Segment.characters_cons, List.length_append]
    refine ⟨by omega, fun token member => ?_⟩
    have inside := inductionHypothesis nonempty.2 token member
    omega

/-- Columns grow along the row, hence no two tokens share one. -/
theorem pairwise_tokens {segments : List Segment} {column : Nat}
    (nonempty : ∀ segment ∈ segments, segment.lexeme ≠ []) :
    (tokens column segments).Pairwise fun left right => left.column < right.column := by
  induction segments generalizing column with
  | nil => exact .nil
  | cons segment others inductionHypothesis =>
    rw [List.forall_mem_cons] at nonempty
    have positive := List.length_pos_iff.mpr nonempty.1
    refine .cons (fun token member => ?_) (inductionHypothesis nonempty.2)
    have behind := (column_lt_of_mem_tokens nonempty.2 token member).1
    simp only
    omega

/-! ## Whole texts -/

/-- What it means that a text is cut into a row of tokens at these segments: nothing is lost, only
gaps are left out, each token is its lexeme's and would not be a longer one, and the columns count
what stands before. -/
structure CutInto (text : List Char) (row : List Token) (segments : List Segment)
    (last : List Char) : Prop where
  lossless : text = characters segments last
  gaps : ∀ before segment after, segments = before ++ segment :: after →
    Gap segment.gap (segment.lexeme ++ characters after last)
  lastGap : Gap last []
  lexemes : ∀ segment ∈ segments, segment.lexeme ≠ [] ∧ Lexeme segment.lexeme segment.kind
  alone : ∀ segment ∈ segments, ∃ stream, lex segment.lexeme = .ok stream ∧
    stream.toList = [⟨segment.kind, 1⟩, ⟨.endOfText, segment.lexeme.length + 1⟩]
  separate : ∀ before segment after, segments = before ++ segment :: after →
    Separate segment.kind (characters after last)
  kinds : row.map Token.kind = segments.map Segment.kind ++ [.endOfText]
  oneEnd : ∀ segment ∈ segments, segment.kind ≠ .endOfText
  columns : ∀ before segment after, segments = before ++ segment :: after →
    row[before.length]? = some ⟨segment.kind, 1 + (characters before segment.gap).length⟩
  endColumn : row.getLast? = some ⟨.endOfText, text.length + 1⟩
  ascending : row.Pairwise fun left right => left.column < right.column

/-- What it means that lexing a text stops at a fault: the text before the column of the fault is
lexed, and the text from there on fails in the same way at its first character. -/
structure StopsAt (text : List Char) (fault : Located LexicalFault) : Prop where
  pos : 1 ≤ fault.column
  le : fault.column ≤ text.length
  before : ∃ stream, lex (text.take (fault.column - 1)) = .ok stream
  behind : lex (text.drop (fault.column - 1)) = .error ⟨1, fault.cause⟩

theorem cutInto_of_segmentation {segments : List Segment} {last : List Char}
    (segmentation : Segmentation [] segments last) :
    CutInto (characters segments last)
      (tokens 1 segments ++ [⟨.endOfText, (characters segments last).length + 1⟩])
      segments last := by
  have isLexeme := segmentation.lexeme_of_mem
  have nonempty : ∀ segment ∈ segments, segment.lexeme ≠ [] :=
    fun segment member => (isLexeme segment member).ne_nil
  constructor
  case lossless => rfl
  case gaps =>
    rintro before segment after rfl
    have isGap := segmentation.at.1
    rwa [List.append_nil] at isGap
  case lastGap => exact segmentation.lastGap
  case lexemes => exact fun segment member => ⟨nonempty segment member, isLexeme segment member⟩
  case alone =>
    intro segment member
    refine ⟨_, lex_lexeme (isLexeme segment member), ?_⟩
    rw [TokenStream.toList_ofInit, List.singleton_append]
  case separate =>
    rintro before segment after rfl
    have separate := segmentation.at.2.2
    rwa [List.append_nil] at separate
  case kinds => rw [List.map_append, Segment.map_kind_tokens]; rfl
  case oneEnd => exact fun segment member => (isLexeme segment member).ne_endOfText
  case columns =>
    rintro before segment after rfl
    have found := getElem?_tokens 1 before after segment
    have inside := (List.getElem?_eq_some_iff.mp found).1
    rw [List.getElem?_append_left inside, found]
  case endColumn => exact List.getLast?_concat
  case ascending =>
    rw [List.pairwise_append]
    refine ⟨pairwise_tokens nonempty, List.pairwise_singleton _ _, ?_⟩
    intro token member atEnd isEnd
    rw [List.mem_singleton.mp isEnd, length_characters]
    have inside := (column_lt_of_mem_tokens nonempty token member).2
    simp only
    omega

theorem stopsAt_of_segmentation {segments : List Segment} {last behind : List Char}
    {cause : LexicalFault} (segmentation : Segmentation behind segments last)
    (fails : FailsAtHead behind cause) :
    StopsAt (characters segments (last ++ behind))
      ⟨1 + (characters segments last).length, cause⟩ := by
  rw [Segment.characters_append_text]
  have positive := List.length_pos_iff.mpr fails.1
  constructor
  case pos => exact Nat.le_add_right 1 _
  case le =>
    rw [List.length_append]
    simp only
    omega
  case before =>
    rw [Nat.add_sub_cancel_left, List.take_left]
    exact ⟨_, lex_segments segmentation.cut⟩
  case behind =>
    rw [Nat.add_sub_cancel_left, List.drop_left]
    exact fails.2 [] 1

/-- A text that is lexed is cut into its tokens, each as long as it can be, with nothing but gaps
between them; a text that is not is lexed up to the fault, which what stands there has by itself.
Every text has such a cut up to a point (`exists_segmentation`), and the lexer follows it. -/
theorem lex_segmentation (text : List Char) :
    match lex text with
    | .ok stream => ∃ segments last, CutInto text stream.toList segments last
    | .error fault => StopsAt text fault := by
  obtain ⟨segments, last, behind, rfl, segmentation, rfl | ⟨cause, fails⟩⟩ :=
    exists_segmentation text
  · rw [List.append_nil, lex_segments segmentation]
    refine ⟨segments, last, ?_⟩
    rw [TokenStream.toList_ofInit]
    exact cutInto_of_segmentation segmentation
  · rw [lex, lexFrom_segments segmentation, fails.2]
    exact stopsAt_of_segmentation segmentation fails

end CompilerFront.Expr
