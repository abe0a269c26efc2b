import Mathlib.Data.List.Infix
import CompilerFront.Expr.Lexer

/-!
Contract: what stands between the tokens of a text.

Owns:
- `Gap`, a row of blanks and comments, given the text behind it;
- `skipGap_gap`, by which the lexer goes over any gap and counts its characters;
- `exists_gap`, by which every text splits into a gap and a rest at whose head none goes on.

Does not own: tokens (`CompilerFront.Proofs.Segmentation.Lexeme`).
-/

namespace CompilerFront.Expr

/-! ## Blanks and comments -/

/-- A block comment with these characters inside goes on behind them. -/
def Unclosed (body : List Char) : Prop := ¬['*', '/'] <:+: body

/-- A line ends at the head of a text: there is nothing, or a line feed. -/
def EndsLine (text : List Char) : Prop := ∀ next ∈ text.head?, next = '\n'

/-- A row of blanks and comments. The text behind it counts, for a line comment goes on up to the
end of its line and takes all of it. -/
inductive Gap : List Char → List Char → Prop where
  | nil {rest : List Char} : Gap [] rest
  | blank {first : Char} {gap rest : List Char} (isBlank : Text.isBlank first = true)
      (others : Gap gap rest) : Gap (first :: gap) rest
  | lineComment {body gap rest : List Char} (oneLine : '\n' ∉ body)
      (ends : EndsLine (gap ++ rest)) (others : Gap gap rest) :
      Gap ('/' :: '/' :: (body ++ gap)) rest
  | blockComment {body gap rest : List Char} (unclosed : Unclosed body) (others : Gap gap rest) :
      Gap ('/' :: '*' :: (body ++ '*' :: '/' :: gap)) rest

/-- Nothing that belongs to a gap stands at the head of a text. -/
def Visible (text : List Char) : Prop :=
  ∀ first others, text = first :: others →
    Text.isBlank first = false ∧
      (first = '/' → ∀ second ∈ others.head?, second ≠ '/' ∧ second ≠ '*')

/-- A block comment starts at the head of a text and is not closed in it. -/
def OpensComment (text : List Char) : Prop :=
  ∃ comment, text = '/' :: '*' :: comment ∧ Unclosed comment

theorem mem_head?_append {text : List Char} {next : Char} (more : List Char)
    (member : next ∈ text.head?) : next ∈ (text ++ more).head? := by
  rw [List.head?_append, Option.mem_def.mp member]
  rfl

/-- A gap stays one when the text is cut off somewhere behind it. -/
theorem Gap.cut {gap rest more : List Char} (isGap : Gap gap (rest ++ more)) : Gap gap rest := by
  generalize shape : rest ++ more = text at isGap
  induction isGap with
  | nil => exact .nil
  | blank isBlank _ inductionHypothesis => exact .blank isBlank (inductionHypothesis shape)
  | lineComment oneLine ends _ inductionHypothesis =>
    subst shape
    refine .lineComment oneLine ?_ (inductionHypothesis rfl)
    intro next member
    apply ends next
    rw [← List.append_assoc]
    exact mem_head?_append more member
  | blockComment unclosed _ inductionHypothesis =>
    exact .blockComment unclosed (inductionHypothesis shape)

/-! ## Closing a block comment -/

theorem unclosed_nil : Unclosed [] := by
  simp [Unclosed]

theorem unclosed_cons_iff {first : Char} {body : List Char} :
    Unclosed (first :: body) ↔ ¬(first = '*' ∧ body.head? = some '/') ∧ Unclosed body := by
  unfold Unclosed
  rw [List.infix_cons_iff, not_or]
  cases body with
  | nil => simp
  | cons second others => simp [eq_comm]

/-- A text closes a comment somewhere for the first time, or never. -/
theorem unclosed_or_closes (text : List Char) :
    Unclosed text ∨ ∃ body rest, text = body ++ '*' :: '/' :: rest ∧ Unclosed body := by
  induction text with
  | nil => exact .inl unclosed_nil
  | cons first others inductionHypothesis =>
    by_cases closes : first = '*' ∧ others.head? = some '/'
    · obtain ⟨rfl, head⟩ := closes
      obtain ⟨rest, rfl⟩ := List.head?_eq_some_iff.mp head
      exact .inr ⟨[], rest, rfl, unclosed_nil⟩
    · rcases inductionHypothesis with unclosed | ⟨body, rest, rfl, unclosed⟩
      · exact .inl (unclosed_cons_iff.mpr ⟨closes, unclosed⟩)
      · refine .inr ⟨first :: body, rest, rfl, unclosed_cons_iff.mpr ⟨?_, unclosed⟩⟩
        rintro ⟨rfl, head⟩
        exact closes ⟨rfl, mem_head?_append _ head⟩

/-! ## Skipping -/

section Skipping

variable {column start : Nat} {first : Char} {body rest : List Char}

theorem skipGap_blank (isBlank : Text.isBlank first = true) :
    skipGap .between column (first :: rest) = skipGap .between (column + 1) rest := by
  have noSlash : first ≠ '/' := by
    rintro rfl
    exact absurd isBlank (by decide)
  conv_lhs => unfold skipGap
  split
  case h_1 shape | h_2 shape =>
    cases shape
    exact absurd rfl noSlash
  case h_3 shape =>
    cases shape
    exact if_pos isBlank
  all_goals contradiction

theorem skipGap_visible {text : List Char} (visible : Visible text) :
    skipGap .between column text = .ok (column, text) := by
  unfold skipGap
  split
  case h_1 =>
    have noComment := (visible '/' _ rfl).2 rfl
    exact absurd rfl (noComment '/' rfl).1
  case h_2 =>
    have noComment := (visible '/' _ rfl).2 rfl
    exact absurd rfl (noComment '*' rfl).2
  case h_3 =>
    have notBlank := (visible _ _ rfl).1
    exact if_neg (Bool.eq_false_iff.mp notBlank)
  case h_4 => rfl
  all_goals contradiction

theorem skipGap_inLine (inside : first ≠ '\n') :
    skipGap .lineComment column (first :: rest) = skipGap .lineComment (column + 1) rest := by
  conv_lhs => unfold skipGap
  split
  case h_5 shape =>
    cases shape
    exact absurd rfl inside
  case h_6 shape =>
    cases shape
    rfl
  all_goals contradiction

theorem skipGap_inBlock (inside : ¬(first = '*' ∧ rest.head? = some '/')) :
    skipGap (.blockComment start) column (first :: rest) =
      skipGap (.blockComment start) (column + 1) rest := by
  conv_lhs => unfold skipGap
  split
  case h_8 shape =>
    cases shape
    exact absurd ⟨rfl, rfl⟩ inside
  case h_9 state shape =>
    cases state
    cases shape
    rfl
  all_goals contradiction

/-- A comment to the end of its line leaves the line break to the gap. -/
theorem skipGap_lineComment (oneLine : '\n' ∉ body) (ends : EndsLine rest) :
    skipGap .lineComment column (body ++ rest) = skipGap .between (column + body.length) rest := by
  induction body generalizing column with
  | nil =>
    cases rest with
    | nil => rfl
    | cons next others =>
      obtain rfl : next = '\n' := ends next rfl
      have isBlank : Text.isBlank '\n' = true := by decide
      rw [List.nil_append, skipGap_blank isBlank]
      rfl
  | cons first others inductionHypothesis =>
    rw [List.mem_cons, not_or] at oneLine
    rw [List.cons_append, skipGap_inLine (Ne.symm oneLine.1), inductionHypothesis oneLine.2,
      List.length_cons, Nat.add_assoc, Nat.add_comm 1]

theorem skipGap_blockComment (unclosed : Unclosed body) :
    skipGap (.blockComment start) column (body ++ '*' :: '/' :: rest) =
      skipGap .between (column + body.length + 2) rest := by
  induction body generalizing column with
  | nil => rfl
  | cons first others inductionHypothesis =>
    obtain ⟨goesOn, unclosed⟩ := unclosed_cons_iff.mp unclosed
    rw [List.cons_append, skipGap_inBlock, inductionHypothesis unclosed, List.length_cons,
      Nat.add_assoc column, Nat.add_comm 1]
    rintro ⟨rfl, head⟩
    cases others with
    | nil => cases head
    | cons second more => exact goesOn ⟨rfl, head⟩

/-- A comment that nobody closes is blamed at its opening and not at the end of the text. -/
theorem skipGap_unclosed {comment : List Char} (unclosed : Unclosed comment) :
    skipGap (.blockComment start) column comment = .error ⟨start, .unterminatedComment⟩ := by
  induction comment generalizing column with
  | nil => rfl
  | cons first others inductionHypothesis =>
    obtain ⟨goesOn, unclosed⟩ := unclosed_cons_iff.mp unclosed
    rw [skipGap_inBlock goesOn, inductionHypothesis unclosed]

/-- A comment that is not closed is a fault at its start, wherever it stands. -/
theorem skipGap_opensComment {text : List Char} (opens : OpensComment text) :
    skipGap .between column text = .error ⟨column, .unterminatedComment⟩ := by
  obtain ⟨comment, rfl, unclosed⟩ := opens
  exact skipGap_unclosed unclosed

/-- A gap is gone over as a whole. -/
theorem skipGap_gap {gap : List Char} (isGap : Gap gap rest) :
    skipGap .between column (gap ++ rest) = skipGap .between (column + gap.length) rest := by
  induction isGap generalizing column with
  | nil => rfl
  | blank isBlank _ inductionHypothesis =>
    rw [List.cons_append, skipGap_blank isBlank, inductionHypothesis, List.length_cons,
      Nat.add_assoc, Nat.add_comm 1]
  | @lineComment body gap rest oneLine ends _ inductionHypothesis =>
    have opened : skipGap .between column ('/' :: '/' :: (body ++ gap) ++ rest) =
        skipGap .lineComment (column + 2) (body ++ (gap ++ rest)) := by
      simp only [List.cons_append, List.append_assoc]
      rfl
    rw [opened, skipGap_lineComment oneLine ends, inductionHypothesis]
    simp only [List.length_cons, List.length_append]
    congr 1
    omega
  | @blockComment body gap rest unclosed _ inductionHypothesis =>
    have opened : skipGap .between column ('/' :: '*' :: (body ++ '*' :: '/' :: gap) ++ rest) =
        skipGap (.blockComment column) (column + 2) (body ++ '*' :: '/' :: (gap ++ rest)) := by
      simp only [List.cons_append, List.append_assoc]
      rfl
    rw [opened, skipGap_blockComment unclosed, inductionHypothesis]
    simp only [List.length_cons, List.length_append]
    congr 1
    omega

end Skipping

/-! ## The gap at the head of a text -/

/-- What is not visible starts with a blank or opens a comment. -/
theorem visible_or_gap (text : List Char) :
    Visible text ∨
      (∃ first others, text = first :: others ∧ Text.isBlank first = true) ∨
        (∃ others, text = '/' :: '/' :: others) ∨ ∃ others, text = '/' :: '*' :: others := by
  by_cases isBlank : ∃ first others, text = first :: others ∧ Text.isBlank first = true
  · exact .inr (.inl isBlank)
  by_cases isLine : ∃ others, text = '/' :: '/' :: others
  · exact .inr (.inr (.inl isLine))
  by_cases isBlock : ∃ others, text = '/' :: '*' :: others
  · exact .inr (.inr (.inr isBlock))
  left
  rintro first others rfl
  refine ⟨Bool.eq_false_iff.mpr fun blank => isBlank ⟨first, others, rfl, blank⟩, ?_⟩
  rintro rfl second head
  obtain ⟨more, rfl⟩ := List.head?_eq_some_iff.mp head
  constructor
  · rintro rfl
    exact isLine ⟨more, rfl⟩
  · rintro rfl
    exact isBlock ⟨more, rfl⟩

theorem exists_line (text : List Char) :
    ∃ body rest, text = body ++ rest ∧ '\n' ∉ body ∧ EndsLine rest := by
  induction text with
  | nil => exact ⟨[], [], rfl, List.not_mem_nil, fun _ member => nomatch member⟩
  | cons first others inductionHypothesis =>
    by_cases isBreak : first = '\n'
    · subst isBreak
      exact ⟨[], '\n' :: others, rfl, List.not_mem_nil,
        fun _ member => (Option.some.inj member).symm⟩
    · obtain ⟨body, rest, rfl, oneLine, ends⟩ := inductionHypothesis
      refine ⟨first :: body, rest, rfl, ?_, ends⟩
      rw [List.mem_cons, not_or]
      exact ⟨Ne.symm isBreak, oneLine⟩

/-- Every text is a gap and a rest that either shows what comes next or opens a comment for good. -/
theorem exists_gap (text : List Char) :
    ∃ gap rest, text = gap ++ rest ∧ Gap gap rest ∧ (Visible rest ∨ OpensComment rest) := by
  -- a gap goes on behind a comment of any length, so the induction is on the length of the text
  induction size : text.length using Nat.strongRecOn generalizing text with
  | ind size inductionHypothesis =>
    subst size
    rcases visible_or_gap text with visible | ⟨first, others, rfl, isBlank⟩ | ⟨others, rfl⟩ |
      ⟨others, rfl⟩
    · exact ⟨[], text, rfl, .nil, .inl visible⟩
    · obtain ⟨gap, rest, rfl, isGap, stops⟩ :=
        inductionHypothesis others.length (Nat.lt_succ_self _) others rfl
      exact ⟨first :: gap, rest, rfl, .blank isBlank isGap, stops⟩
    · obtain ⟨body, behind, rfl, oneLine, ends⟩ := exists_line others
      obtain ⟨gap, rest, rfl, isGap, stops⟩ := inductionHypothesis behind.length
        (by simp only [List.length_cons, List.length_append]; omega) behind rfl
      refine ⟨'/' :: '/' :: (body ++ gap), rest, ?_, .lineComment oneLine ends isGap, stops⟩
      simp only [List.cons_append, List.append_assoc]
    · rcases unclosed_or_closes others with unclosed | ⟨body, behind, rfl, unclosed⟩
      · exact ⟨[], '/' :: '*' :: others, rfl, .nil, .inr ⟨others, rfl, unclosed⟩⟩
      · obtain ⟨gap, rest, rfl, isGap, stops⟩ := inductionHypothesis behind.length
          (by simp only [List.length_cons, List.length_append]; omega) behind rfl
        refine ⟨'/' :: '*' :: (body ++ '*' :: '/' :: gap), rest, ?_,
          .blockComment unclosed isGap, stops⟩
        simp only [List.cons_append, List.append_assoc]

end CompilerFront.Expr
