import CompilerFront.Expr.Constant
import CompilerFront.Proofs.Columns.InOrder
import CompilerFront.Proofs.Grammar.Acceptance
import CompilerFront.Proofs.Segmentation.MaximalMunch

/-!
Contract: the columns of faults and of trees point at the right characters.

Owns:
- `SyntaxFault.Blames`, what a syntactic fault says of the token it is reported at, and
  `staysIn_of_reads`, by which every fault of the reader says it of a token of its stream;
- `PointsAt`, what stands at the column of a fault, one rule for each stage;
- `Pointed` and `evaluate_pointed`, by which all of this holds of every text.
-/

namespace CompilerFront.Expr

/-! ## Syntactic faults -/

/-- What a syntactic fault says of the token that it is reported at. -/
def SyntaxFault.Blames : SyntaxFault → TokenKind → Prop
  | .expectedEnd, kind => kind ≠ .endOfText
  | .expectedColon, kind => kind ≠ .symbol .colon
  | .expectedClosing, kind => kind ≠ .symbol .rightParen
  | .unexpectedEnd, kind => kind = .endOfText
  | .expectedExpression, kind => ∃ symbol, kind = .symbol symbol ∧ symbol ≠ .leftParen
  | .tooDeep, _ => True

namespace Parser

theorem suffix_advance (stream : TokenStream) : stream.advance.toList <:+ stream.toList := by
  obtain ⟨current, later⟩ := stream
  cases later with
  | nil => exact List.suffix_refl _
  | cons next others => exact List.suffix_cons current _

/-- How the end of a task stands to the stream that it was given: what is left is the last part of
the stream, and a fault is reported at one of its tokens and blames this token. -/
def StaysIn (stream : TokenStream) : ReadOutcome → Prop
  | .ok (_, rest) => rest.toList <:+ stream.toList
  | .error fault =>
    ∃ token ∈ stream.toList, fault.column = token.column ∧ fault.cause.Blames token.kind

section Streams

variable {stream inner rest : TokenStream} {outcome : ReadOutcome}

/-- A reader that starts further on blames a token of the whole row all the same. -/
theorem StaysIn.widen (stays : StaysIn inner outcome) (inside : inner.toList <:+ stream.toList) :
    StaysIn stream outcome := by
  cases outcome with
  | ok read => exact List.IsSuffix.trans stays inside
  | error fault =>
    obtain ⟨token, member, reported⟩ := stays
    exact ⟨token, inside.subset member, reported⟩

/-- A fault at the first token of what is left. -/
theorem staysIn_fault {cause : SyntaxFault} (inside : rest.toList <:+ stream.toList)
    (blames : cause.Blames rest.current.kind) :
    StaysIn stream (.error ⟨rest.current.column, cause⟩) :=
  ⟨rest.current, inside.subset List.mem_cons_self, rfl, blames⟩

theorem ne_symbol_of_not_atSymbol {symbol : Symbol} (elsewhere : stream.atSymbol symbol = false) :
    stream.current.kind ≠ .symbol symbol := by
  rw [TokenStream.atSymbol, beq_eq_false_iff_ne] at elsewhere
  exact elsewhere

/-- A token that starts no operand is the end of the text or a symbol. -/
theorem blames_operandFault (noLeaf : leaf? stream.current.kind = none)
    (elsewhere : stream.atSymbol .leftParen = false) :
    (operandFault stream.current.kind).Blames stream.current.kind := by
  have noOpening := ne_symbol_of_not_atSymbol elsewhere
  cases kind : stream.current.kind with
  | endOfText => exact rfl
  | symbol symbol =>
    refine ⟨symbol, rfl, ?_⟩
    rintro rfl
    exact noOpening kind
  | int | string | bool | null =>
    rw [kind] at noLeaf
    cases noLeaf

end Streams

/-- Reading never leaves its stream, and every fault blames a token of it. -/
theorem staysIn_of_reads {depth : Nat} {task : Task} {stream : TokenStream} {outcome : ReadOutcome}
    (reads : Reads depth task stream outcome) : StaysIn stream outcome := by
  induction reads with
  | enter _ _ body => exact body
  | enterTooDeep | signTooDeep | operationTooHigh | markTooHigh =>
    exact staysIn_fault (List.suffix_refl _) trivial
  | conditionFault _ condition | noQuestion _ _ condition => exact condition
  | thenFault _ _ _ condition thenBranch =>
    exact thenBranch.widen ((suffix_advance _).trans condition)
  | noColon _ _ _ elsewhere condition thenBranch =>
    exact staysIn_fault (thenBranch.widen ((suffix_advance _).trans condition))
      (ne_symbol_of_not_atSymbol elsewhere)
  | elseFault _ _ _ _ _ condition thenBranch elseBranch
  | choice _ _ _ _ _ _ condition thenBranch elseBranch =>
    have atColon := thenBranch.widen ((suffix_advance _).trans condition)
    exact elseBranch.widen ((suffix_advance _).trans atColon)
  | choiceTooHigh _ _ _ _ _ _ condition => exact staysIn_fault condition trivial
  | leftFault _ left => exact left
  | operands _ _ left tail => exact tail.widen left
  | stop | noMark => exact List.suffix_refl _
  | rightFault _ _ _ right => exact right.widen (suffix_advance _)
  | operation _ _ _ _ _ right tail => exact tail.widen (right.widen (suffix_advance _))
  | unsigned _ _ inner => exact inner
  | signedFault _ _ _ operand | signed _ _ _ _ operand => exact operand.widen (suffix_advance _)
  | signedTooHigh => exact staysIn_fault (List.suffix_refl _) trivial
  | operandFault _ operand => exact operand
  | postfixed _ _ operand tail => exact tail.widen operand
  | mark _ _ _ tail => exact tail.widen (suffix_advance _)
  | leaf => exact suffix_advance _
  | innerFault _ _ inner => exact inner.widen (suffix_advance _)
  | noClosing _ _ elsewhere inner =>
    exact staysIn_fault (inner.widen (suffix_advance _)) (ne_symbol_of_not_atSymbol elsewhere)
  | parenthesized _ _ _ inner => exact (suffix_advance _).trans (inner.widen (suffix_advance _))
  | noOperand noLeaf elsewhere =>
    exact staysIn_fault (List.suffix_refl _) (blames_operandFault noLeaf elsewhere)

end Parser

/-! ## Lexing -/

/-- A text that is lexed is a row of segments, and the tokens are theirs with the end behind
them. -/
theorem segments_of_lex {text : List Char} {stream : TokenStream} (lexed : lex text = .ok stream) :
    ∃ segments last, text = Segment.characters segments last ∧ Segmentation [] segments last ∧
      stream = .ofInit (Segment.tokens 1 segments) ⟨.endOfText, text.length + 1⟩ := by
  obtain ⟨segments, last, behind, rfl, segmentation, rfl | ⟨cause, fails⟩⟩ :=
    exists_segmentation text
  · rw [List.append_nil] at lexed ⊢
    rw [lex_segments segmentation] at lexed
    exact ⟨segments, last, rfl, segmentation, (Except.ok.inj lexed).symm⟩
  · rw [lex, lexFrom_segments segmentation, fails.2] at lexed
    cases lexed

/-- A text that is not lexed is a row of segments up to what cannot be lexed, and the fault is
reported there. -/
theorem offends_of_lex {text : List Char} {fault : Located LexicalFault}
    (failed : lex text = .error fault) :
    ∃ segments last behind, text = Segment.characters segments (last ++ behind) ∧
      Segmentation behind segments last ∧ Offends behind fault.cause ∧
      fault.column = (Segment.characters segments last).length + 1 := by
  obtain ⟨segments, last, behind, rfl, segmentation, rfl | ⟨cause, offends⟩⟩ :=
    exists_offending text
  · rw [List.append_nil, lex_segments segmentation] at failed
    cases failed
  · rw [lex, lexFrom_segments segmentation, (failsAtHead_of_offends offends).2] at failed
    cases failed
    exact ⟨segments, last, behind, rfl, segmentation, offends, Nat.add_comm 1 _⟩

/-- Only the token that the lexer adds by itself stands for the end of the text. -/
theorem ne_endOfText_of_mem_tokens {segments : List Segment} {last : List Char}
    (segmentation : Segmentation [] segments last) (token : Token)
    (member : token ∈ Segment.tokens 1 segments) : token.kind ≠ .endOfText := by
  have kind := List.mem_map_of_mem (f := Token.kind) member
  rw [Segment.map_kind_tokens] at kind
  obtain ⟨segment, isSegment, same⟩ := List.mem_map.mp kind
  rw [← same]
  exact (segmentation.lexeme_of_mem segment isSegment).ne_endOfText

/-- The columns of a row of tokens lie in the text, and only its end lies behind it. -/
theorem column_of_mem_row {segments : List Segment} {last : List Char}
    (segmentation : Segmentation [] segments last) (token : Token)
    (member : token ∈ Segment.tokens 1 segments ++
      [⟨.endOfText, (Segment.characters segments last).length + 1⟩]) :
    1 ≤ token.column ∧ token.column ≤ (Segment.characters segments last).length + 1 ∧
      (token.column = (Segment.characters segments last).length + 1 →
        token.kind = .endOfText) := by
  rw [List.mem_append, List.mem_singleton] at member
  rcases member with inside | rfl
  · have nonempty : ∀ segment ∈ segments, segment.lexeme ≠ [] :=
      fun segment isSegment => (segmentation.lexeme_of_mem segment isSegment).ne_nil
    have bounds := column_lt_of_mem_tokens nonempty token inside
    have longer := length_characters segments last
    exact ⟨bounds.1, by omega, by omega⟩
  · exact ⟨Nat.le_add_left 1 _, Nat.le_refl _, fun _ => rfl⟩

/-! ## Reading -/

/-- What the reader makes of a whole row of tokens: a tree that holds them in their order, or a
fault that blames one of them. -/
theorem ofTokens_row {tokens : List Token} {last : Token} (isEnd : last.kind = .endOfText)
    (onlyEnd : ∀ token ∈ tokens, token.kind ≠ .endOfText) :
    match Tree.ofTokens (.ofInit tokens last) with
    | .ok tree => tree.inOrder = marks (tokens ++ [last])
    | .error fault => ∃ token ∈ tokens ++ [last],
        fault.column = token.column ∧ fault.cause.Blames token.kind := by
  have reads := Parser.reads_read 0 .conditional (.ofInit tokens last)
  have stays := Parser.staysIn_of_reads reads
  have noNode : last.kind.hasNode = false := by rw [isEnd]; rfl
  rw [Grammar.ofTokens_eq]
  cases outcome : Parser.Task.conditional.read 0 (.ofInit tokens last) with
  | error fault =>
    rw [outcome, Parser.StaysIn, TokenStream.toList_ofInit] at stays
    exact stays
  | ok found =>
    obtain ⟨read, rest⟩ := found
    rw [outcome, Parser.StaysIn, TokenStream.toList_ofInit] at stays
    by_cases atEnd : rest.current.kind = .endOfText
    · obtain ⟨taken, remaining, rfl, rfl, phrase⟩ :=
        Grammar.phrase_of_climbs isEnd (Grammar.climbs_of_reads reads outcome) rfl
      cases remaining with
      | nil =>
        simp only [atEnd, ↓reduceIte, List.append_nil]
        rw [marks_append, marks_cons_of_not_hasNode noNode, marks_nil, List.append_nil]
        exact Grammar.inOrder_of_phrase phrase
      | cons first others => exact absurd atEnd (onlyEnd first (by simp))
    · simp only [atEnd, ↓reduceIte, Parser.faultAt]
      exact ⟨rest.current, stays.subset List.mem_cons_self, rfl, atEnd⟩

/-- The tokens of a text are read to a tree that holds them in their order, or to a fault that
blames one of them. -/
theorem ofTokens_of_lex {text : List Char} {stream : TokenStream} (lexed : lex text = .ok stream) :
    match Tree.ofTokens stream with
    | .ok tree => tree.inOrder = marks stream.toList
    | .error fault => ∃ token ∈ stream.toList,
        fault.column = token.column ∧ fault.cause.Blames token.kind := by
  obtain ⟨segments, last, -, segmentation, rfl⟩ := segments_of_lex lexed
  rw [TokenStream.toList_ofInit]
  exact ofTokens_row rfl (ne_endOfText_of_mem_tokens segmentation)

/-! ## Whole texts -/

/-- What stands at the column of a fault. Before a lexical fault there are whole segments, and
behind them starts what cannot be lexed; a syntactic fault blames the token there; the operator
there is the one whose node is the first that fails by itself. -/
inductive PointsAt (text : List Char) : Located Fault → Prop where
  | lexical {segments : List Segment} {last behind : List Char} {cause : LexicalFault}
      (whole : text = Segment.characters segments (last ++ behind))
      (segmentation : Segmentation behind segments last) (offends : Offends behind cause) :
      PointsAt text ⟨(Segment.characters segments last).length + 1, .lexical cause⟩
  | syntactic {stream : TokenStream} {token : Token} {cause : SyntaxFault}
      (lexed : lex text = .ok stream) (member : token ∈ stream.toList)
      (blames : cause.Blames token.kind) : PointsAt text ⟨token.column, .syntactic cause⟩
  | computational {stream : TokenStream} {tree node : Tree} {place : List Nat} {token : Token}
      {cause : ComputationFault} (lexed : lex text = .ok stream)
      (read : Tree.ofTokens stream = .ok tree)
      (first : FirstRejection tree place node ⟨token.column, cause⟩)
      (member : token ∈ stream.toList) (own : token.mark = node.mark) :
      PointsAt text ⟨token.column, .computational cause⟩

/-- A fault is a syntactic one that blames the end of its text. -/
def AtEnd (text : List Char) (fault : Located Fault) : Prop :=
  ∃ stream token cause, lex text = .ok stream ∧ token ∈ stream.toList ∧
    token.kind = .endOfText ∧ fault = ⟨token.column, .syntactic cause⟩ ∧
      cause.Blames .endOfText

section Points

variable {text : List Char} {fault : Located Fault}

/-- What a fault points at lies in the text, but for the end that a syntactic fault may blame. -/
theorem bounds_of_pointsAt (points : PointsAt text fault) :
    1 ≤ fault.column ∧ fault.column ≤ text.length + 1 ∧
      (fault.column = text.length + 1 → AtEnd text fault) := by
  cases points with
  | @lexical segments last behind _ whole _ offends =>
    have nonempty := List.length_pos_iff.mpr (failsAtHead_of_offends offends).1
    have inside : (Segment.characters segments last).length + 1 < text.length + 1 := by
      rw [whole, Segment.characters_append_text, List.length_append]
      omega
    exact ⟨Nat.le_add_left 1 _, inside.le, fun behind => absurd behind inside.ne⟩
  | syntactic lexed member blames =>
    obtain ⟨segments, last, rfl, segmentation, rfl⟩ := segments_of_lex lexed
    have inRow := member
    rw [TokenStream.toList_ofInit] at inRow
    obtain ⟨lower, upper, atEnd⟩ := column_of_mem_row segmentation _ inRow
    refine ⟨lower, upper, fun behind => ?_⟩
    have isEnd := atEnd behind
    rw [isEnd] at blames
    exact ⟨_, _, _, lexed, member, isEnd, rfl, blames⟩
  | @computational stream tree node place token cause lexed read first member own =>
    obtain ⟨segments, last, rfl, segmentation, rfl⟩ := segments_of_lex lexed
    rw [TokenStream.toList_ofInit] at member
    obtain ⟨lower, upper, atEnd⟩ := column_of_mem_row segmentation _ member
    refine ⟨lower, upper, fun behind => ?_⟩
    have reported := column_of_rejects first.rejects
    rw [← own, Token.mark, atEnd behind] at reported
    cases reported

end Points

section Evaluation

variable {source : String}

/-- Three kinds of faults, from the text, the row and the tree, each with its own reason to point
where it does. -/
theorem pointsAt_of_evaluate {fault : Located Fault} (failed : evaluate source = .error fault) :
    PointsAt source.toList fault := by
  unfold evaluate at failed
  split at failed
  · rename_i lexicalFault lexicalFailure
    cases failed
    obtain ⟨segments, last, behind, whole, segmentation, offends, column⟩ :=
      offends_of_lex lexicalFailure
    rw [Located.map, column]
    exact .lexical whole segmentation offends
  rename_i stream lexed
  split at failed
  · rename_i syntaxFault syntaxFailure
    cases failed
    have row := ofTokens_of_lex lexed
    rw [syntaxFailure] at row
    obtain ⟨token, member, column, blames⟩ := row
    rw [Located.map, column]
    exact .syntactic lexed member blames
  rename_i tree read
  split at failed
  · rename_i computationFault computationFailure
    cases failed
    obtain ⟨place, node, first⟩ := firstRejection_of_error computationFailure
    have listed := mark_mem_of_demanded first.demanded
    have row := ofTokens_of_lex lexed
    rw [read] at row
    rw [row] at listed
    obtain ⟨token, member, own⟩ := List.mem_map.mp listed
    have reported := column_of_rejects first.rejects
    rw [← own] at reported
    obtain ⟨column, cause⟩ := computationFault
    obtain rfl := column_of_mark reported
    exact .computational lexed read first (List.mem_filter.mp member).1 own
  · cases failed

end Evaluation

/-- All columns of a text are those of the characters that they are about. A tree lists its tokens
with their columns from left to right, and a fault stands where the text itself shows what is
wrong. -/
structure Pointed (source : String) : Prop where
  tree : ∀ stream tree, lex source.toList = .ok stream → Tree.ofTokens stream = .ok tree →
    tree.inOrder = marks stream.toList
  fault : ∀ fault, evaluate source = .error fault → PointsAt source.toList fault
  bounds : ∀ fault, evaluate source = .error fault →
    1 ≤ fault.column ∧ fault.column ≤ source.toList.length + 1
  behind : ∀ fault, evaluate source = .error fault →
    fault.column = source.toList.length + 1 → AtEnd source.toList fault

/-- In every text, trees and faults have the columns of what they are about. Columns are counted
over the text from one, and a fault that lies behind the text stands one past its end. -/
theorem evaluate_pointed (source : String) : Pointed source := by
  constructor
  case tree =>
    intro stream tree lexed read
    have row := ofTokens_of_lex lexed
    rwa [read] at row
  case fault => exact fun fault failed => pointsAt_of_evaluate failed
  case bounds =>
    intro fault failed
    obtain ⟨lower, upper, -⟩ := bounds_of_pointsAt (pointsAt_of_evaluate failed)
    exact ⟨lower, upper⟩
  case behind => exact fun fault failed => (bounds_of_pointsAt (pointsAt_of_evaluate failed)).2.2

end CompilerFront.Expr
