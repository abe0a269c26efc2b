import CompilerFront.Proofs.Guarded.Lexer

/-!
Contract: the guarded lexer comes to what the lexer says.

Owns:
- `scansGap_skipGap`, for gaps, by induction on what is left of a gap;
- `Scans` and its lemmas, for literals and symbols;
- `runs_lexAll`, by which the whole program ends, unbreached, with the tokens of `lex` or its fault.

That the loops end is part of each of these.
-/

namespace CompilerFront.Expr.Guarded.Lexer

open Machine (andThen orEnd require)

/-! ## Gaps -/

/-- The program that is left inside a gap. -/
def resumeGap (characters : List Char) : GapState → Machine Nat (Lexed Unit)
  | .between => skipGaps characters
  | .lineComment => do
    let _ ← scanWhile characters (· != '\n')
    skipGaps characters
  | .blockComment start => andThen (skipBlock characters start) fun _ => skipGaps characters

section Gaps

variable {characters : List Char} {index after : Nat} {first : Char} {rest : List Char}
  {result : Lexed Unit}

theorem runs_skipGaps_blank (position : At characters index (first :: rest))
    (blank : Text.isBlank first = true)
    (runs : Runs (skipGaps characters) (index + 1) result after) :
    Runs (skipGaps characters) index result after := by
  refine runs_repeatM_next ?_ runs
  refine runs_bind (runs_peek position) (runs_bind (runs_peekNext position) ?_)
  simp only [List.head?_cons, Option.map_some, Option.getD_some, blank, ↓reduceIte]
  exact runs_bind (runs_advance_one position) (runs_pure _)

theorem runs_skipGaps_lineComment (position : At characters index ('/' :: '/' :: rest))
    (runs : Runs (resumeGap characters .lineComment) index result after) :
    Runs (skipGaps characters) index result after := by
  obtain ⟨comment, middle, commentRuns, runsOn⟩ := exists_runs_of_bind runs
  refine runs_repeatM_next ?_ runsOn
  exact runs_bind (runs_peek position)
    (runs_bind (runs_peekNext position) (runs_bind commentRuns (runs_pure _)))

theorem runs_skipGaps_blockComment (position : At characters index ('/' :: '*' :: rest))
    (runs : Runs (resumeGap characters (.blockComment (index + 1))) (index + 2) result after) :
    Runs (skipGaps characters) index result after := by
  have moved := runs_advance_two position
  obtain ⟨skipped, middle, skips, runsOn⟩ := exists_runs_of_bind runs
  have opens {final : Unit ⊕ Lexed Unit}
      (closes : Runs (orEnd (skipBlock characters (index + 1)) fun _ => pure (.inl ())) (index + 2)
        final middle) : Runs (gapTurn characters ()) index final middle :=
    runs_bind (runs_peek position)
      (runs_bind (runs_peekNext position) (runs_bind runs_get (runs_bind moved closes)))
  -- One turn takes the whole comment, so what is left behind the opening is cut where it ends.
  cases skipped with
  | error fault =>
    obtain ⟨rfl, rfl⟩ := runs_unique runsOn (runs_pure _)
    exact runs_repeatM_last (opens (runs_orEnd_fault skips))
  | ok _ => exact runs_repeatM_next (opens (runs_orEnd skips (runs_pure _))) runsOn

/-- A text that starts with neither a blank nor a comment ends the gap. -/
theorem runs_skipGaps_stop {text : List Char} (position : At characters index text)
    (visible : (text.head?.map Text.isBlank).getD false = false)
    (noLine : ¬(text.head? = some '/' ∧ text[1]? = some '/'))
    (noBlock : ¬(text.head? = some '/' ∧ text[1]? = some '*')) :
    Runs (skipGaps characters) index (.ok ()) index := by
  apply runs_repeatM_last
  refine runs_bind (runs_peek position) (runs_bind (runs_peekNext position) ?_)
  simp only [visible, noLine, noBlock, Bool.false_eq_true, ↓reduceIte]
  exact runs_pure _

/-- Inside a line comment it does not matter how much of it is left. -/
theorem runs_lineComment_inside (position : At characters index (first :: rest))
    (inside : first ≠ '\n')
    (runs : Runs (resumeGap characters .lineComment) (index + 1) result after) :
    Runs (resumeGap characters .lineComment) index result after := by
  have accepted : (first != '\n') = true := bne_iff_ne.mpr inside
  have whole := runs_scanWhile (· != '\n') position
  simp only [List.takeWhile_cons, accepted, ↓reduceIte, List.length_cons] at whole
  rw [Nat.add_comm _ 1, ← Nat.add_assoc] at whole
  have left := runs_scanWhile (· != '\n') position.tail
  exact runs_bind whole ((runs_bind_iff left).mp runs)

theorem runs_lineComment_break (position : At characters index ('\n' :: rest))
    (runs : Runs (skipGaps characters) (index + 1) result after) :
    Runs (resumeGap characters .lineComment) index result after :=
  runs_bind (runs_scanWhile _ position) (runs_skipGaps_blank position (by decide) runs)

theorem runs_skipBlock_inside {start : Nat} (position : At characters index (first :: rest))
    (inside : ¬(first = '*' ∧ rest.head? = some '/'))
    (runs : Runs (skipBlock characters start) (index + 1) result after) :
    Runs (skipBlock characters start) index result after := by
  have goesOn : ¬((first :: rest).head? = some '*' ∧ (first :: rest)[1]? = some '/') := by
    rw [List.head?_cons, List.getElem?_cons_succ, ← List.head?_eq_getElem?, Option.some.injEq]
    exact inside
  refine runs_repeatM_next ?_ runs
  refine runs_bind (runs_peek position) (runs_bind (runs_peekNext position) ?_)
  rw [if_neg (by simp), if_neg goesOn]
  exact runs_bind (runs_advance_one position) (runs_pure _)

theorem runs_skipBlock_close {start : Nat} (position : At characters index ('*' :: '/' :: rest)) :
    Runs (skipBlock characters start) index (.ok ()) (index + 2) := by
  have moved := runs_advance_two position
  apply runs_repeatM_last
  exact runs_bind (runs_peek position)
    (runs_bind (runs_peekNext position) (runs_bind moved (runs_pure _)))

theorem runs_skipBlock_end {start : Nat} (position : At characters index []) :
    Runs (skipBlock characters start) index (.error ⟨start, .unterminatedComment⟩) index := by
  apply runs_repeatM_last
  exact runs_bind (runs_peek position) (runs_bind (runs_peekNext position) (runs_pure _))

end Gaps

theorem exists_cons_of_second {first second : Char} {rest : List Char}
    (found : (first :: rest)[1]? = some second) : ∃ further, rest = second :: further := by
  rw [List.getElem?_cons_succ, ← List.head?_eq_getElem?] at found
  exact List.head?_eq_some_iff.mp found

/-- `ScansGap characters state index outcome`: what is left of a gap ends with the outcome that
`skipGap` has for the text at the index. -/
def ScansGap (characters : List Char) (state : GapState) (index : Nat) :
    Except (Located LexicalFault) (Nat × List Char) → Prop
  | .error fault => ∃ after, Runs (resumeGap characters state) index (.error fault) after
  | .ok (column, rest) => ∃ after, column = after + 1 ∧ At characters after rest ∧
      Runs (resumeGap characters state) index (.ok ()) after

/-- A turn that needs no fault carries what is known of the rest of the gap over to its
beginning. -/
theorem ScansGap.step {characters : List Char} {state next : GapState} {index nextIndex : Nat}
    {outcome : Except (Located LexicalFault) (Nat × List Char)}
    (scans : ScansGap characters next nextIndex outcome)
    (step : ∀ result after, Runs (resumeGap characters next) nextIndex result after →
      Runs (resumeGap characters state) index result after) :
    ScansGap characters state index outcome := by
  cases outcome with
  | error fault =>
    obtain ⟨after, runs⟩ := scans
    exact ⟨after, step _ _ runs⟩
  | ok behind =>
    obtain ⟨after, column, position, runs⟩ := scans
    exact ⟨after, column, position, step _ _ runs⟩

/-- By induction on the text, with one case for each state between two tokens. -/
theorem scansGap_skipGap {characters : List Char} {index : Nat} {text : List Char}
    (state : GapState) (position : At characters index text) :
    ScansGap characters state index (skipGap state (index + 1) text) := by
  generalize column_eq : index + 1 = column
  fun_induction skipGap state column text generalizing index with
  -- Between two tokens: a comment of either kind, a blank, what is visible, and the end.
  | case1 column rest inductionHypothesis =>
    subst column_eq
    refine (inductionHypothesis position.tail.tail rfl).step fun result after runs => ?_
    apply runs_skipGaps_lineComment position
    apply runs_lineComment_inside position (by decide)
    exact runs_lineComment_inside position.tail (by decide) runs
  | case2 column rest inductionHypothesis =>
    subst column_eq
    exact (inductionHypothesis position.tail.tail rfl).step fun result after runs =>
      runs_skipGaps_blockComment position runs
  | case3 column first rest _ _ blank inductionHypothesis =>
    subst column_eq
    exact (inductionHypothesis position.tail rfl).step fun result after runs =>
      runs_skipGaps_blank position blank runs
  | case4 column first rest noLine noBlock visible =>
    subst column_eq
    refine ⟨index, rfl, position, runs_skipGaps_stop position ?_ ?_ ?_⟩
    · exact Bool.eq_false_iff.mpr visible
    · rintro ⟨isSlash, isNext⟩
      obtain ⟨further, shape⟩ := exists_cons_of_second isNext
      exact noLine further (Option.some.inj isSlash) shape
    · rintro ⟨isSlash, isNext⟩
      obtain ⟨further, shape⟩ := exists_cons_of_second isNext
      exact noBlock further (Option.some.inj isSlash) shape
  | case5 column =>
    subst column_eq
    exact ⟨index, rfl, position, runs_skipGaps_stop position rfl (by simp) (by simp)⟩
  -- In a comment to the end of the line.
  | case6 column rest inductionHypothesis =>
    subst column_eq
    exact (inductionHypothesis position.tail rfl).step fun result after runs =>
      runs_lineComment_break position runs
  | case7 column first rest inside inductionHypothesis =>
    subst column_eq
    exact (inductionHypothesis position.tail rfl).step fun result after runs =>
      runs_lineComment_inside position inside runs
  | case8 column =>
    subst column_eq
    have stopped := runs_skipGaps_stop position rfl (by simp) (by simp)
    exact ⟨index, rfl, position, runs_bind (runs_scanWhile _ position) stopped⟩
  -- In a block comment.
  | case9 column start rest inductionHypothesis =>
    subst column_eq
    exact (inductionHypothesis position.tail.tail rfl).step fun result after runs =>
      runs_andThen (runs_skipBlock_close position) runs
  | case10 column start first rest inside inductionHypothesis =>
    subst column_eq
    have goesOn : ¬(first = '*' ∧ rest.head? = some '/') := by
      rintro ⟨isStar, isNext⟩
      obtain ⟨further, shape⟩ := List.head?_eq_some_iff.mp isNext
      exact inside further isStar shape
    refine (inductionHypothesis position.tail rfl).step fun result after runs => ?_
    obtain ⟨skipped, middle, skips, behind⟩ := exists_runs_of_bind runs
    exact runs_bind (runs_skipBlock_inside position goesOn skips) behind
  | case11 column start =>
    subst column_eq
    exact ⟨index, runs_andThen_fault (runs_skipBlock_end position)⟩

/-! ## Literals -/

/-- `Scans characters program start index column outcome`: run at the index, the program ends with
the outcome that a reader has which counts the characters it takes from the start; causes are
reported at the column. -/
def Scans {Result : Type} (characters : List Char) (program : Machine Nat (Lexed Result))
    (start index column : Nat) : Except LexicalFault (Scanned Result) → Prop
  | .error cause => ∃ after, Runs program index (.error ⟨column, cause⟩) after
  | .ok scanned => At characters (start + scanned.width) scanned.rest ∧
      Runs program index (.ok scanned.value) (start + scanned.width)

section Scans

variable {Result : Type} {characters : List Char} {program other : Machine Nat (Lexed Result)}
  {start index nextIndex column : Nat} {outcome : Except LexicalFault (Scanned Result)}

/-- A step of a program leaves the rest of the outcome to what follows. -/
theorem Scans.step (scans : Scans characters program start nextIndex column outcome)
    (step : ∀ result after, Runs program nextIndex result after → Runs other index result after) :
    Scans characters other start index column outcome := by
  cases outcome with
  | error cause =>
    obtain ⟨after, runs⟩ := scans
    exact ⟨after, step _ _ runs⟩
  | ok scanned => exact ⟨scans.1, step _ _ scans.2⟩

/-- Characters taken before the start are counted by widening. -/
theorem Scans.widen {extra : Nat}
    (scans : Scans characters program (start + extra) index column outcome) :
    Scans characters program start index column (outcome.map (·.widen extra)) := by
  cases outcome with
  | error cause => exact scans
  | ok scanned =>
    have shift : start + (scanned.widen extra).width = start + extra + scanned.width := by
      rw [Scanned.widen, Nat.add_assoc, Nat.add_comm extra]
    rw [Except.map, Scans, shift]
    exact scans

theorem scans_reportedAt {value : Except LexicalFault Result} {width : Nat} {rest : List Char}
    (position : At characters (start + width) rest)
    (runs : Runs program index (reportedAt column value) (start + width)) :
    Scans characters program start index column
      (value.map fun result => ⟨result, width, rest⟩) := by
  cases value with
  | error cause => exact ⟨_, runs⟩
  | ok result => exact ⟨position, runs⟩

theorem Scans.map {Next : Type} {change : Result → Next}
    (scans : Scans characters program start index column outcome) :
    Scans characters (program.andThen fun result => pure (.ok (change result))) start index column
      (outcome.map fun scanned => ⟨change scanned.value, scanned.width, scanned.rest⟩) := by
  cases outcome with
  | error cause =>
    obtain ⟨after, runs⟩ := scans
    exact ⟨after, runs_andThen_fault runs⟩
  | ok scanned => exact ⟨scans.1, runs_andThen scans.2 (runs_pure _)⟩

end Scans

section Numbers

theorem head?_of_takeWhile {accepts : Char → Bool} {text body : List Char} {first : Char}
    (shape : text.takeWhile accepts = first :: body) : text.head? = some first := by
  cases text with
  | nil => cases shape
  | cons head rest =>
    rw [List.takeWhile_cons] at shape
    split at shape
    · rw [List.cons.injEq] at shape
      rw [List.head?_cons, shape.1]
    · cases shape

/-- The two characters that a word starts with announce the radix of the word. -/
theorem radixOf_cases (first : Char) (rest : List Char) :
    (∃ mark further, rest = mark :: further ∧ isWordChar mark = true ∧
      ∃ radix, radixOf (some first) rest.head? = radix ∧ radix ≠ 10 ∧ 2 ≤ radix ∧ radix ≤ 36 ∧
        ∀ body, splitRadix (first :: mark :: body) = (radix, body)) ∨
      radixOf (some first) rest.head? = 10 ∧ splitRadix (first :: rest.takeWhile isWordChar) =
        (10, first :: rest.takeWhile isWordChar) := by
  by_cases announced : ∃ mark further, first = '0' ∧ rest = mark :: further ∧
      mark ∈ ['x', 'X', 'o', 'O', 'b', 'B']
  · obtain ⟨mark, further, rfl, rfl, isMark⟩ := announced
    left
    refine ⟨mark, further, rfl, ?_⟩
    simp only [List.mem_cons, List.not_mem_nil, or_false] at isMark
    rcases isMark with rfl | rfl | rfl | rfl | rfl | rfl
    · exact ⟨by decide, 16, rfl, by decide, by decide, by decide, fun _ => rfl⟩
    · exact ⟨by decide, 16, rfl, by decide, by decide, by decide, fun _ => rfl⟩
    · exact ⟨by decide, 8, rfl, by decide, by decide, by decide, fun _ => rfl⟩
    · exact ⟨by decide, 8, rfl, by decide, by decide, by decide, fun _ => rfl⟩
    · exact ⟨by decide, 2, rfl, by decide, by decide, by decide, fun _ => rfl⟩
    · exact ⟨by decide, 2, rfl, by decide, by decide, by decide, fun _ => rfl⟩
  · right
    have noMark : ∀ mark, first = '0' → rest.head? = some mark →
        mark ∉ ['x', 'X', 'o', 'O', 'b', 'B'] := by
      intro mark isZero isHead isMark
      obtain ⟨further, shape⟩ := List.head?_eq_some_iff.mp isHead
      exact announced ⟨mark, further, isZero, shape, isMark⟩
    constructor
    · unfold radixOf
      rw [if_neg, if_neg, if_neg]
      all_goals
        rintro ⟨isZero, isHead | isHead⟩
        · exact noMark _ (Option.some.inj isZero) isHead (by decide)
        · exact noMark _ (Option.some.inj isZero) isHead (by decide)
    · unfold splitRadix
      split
      case h_7 => rfl
      all_goals
        rename_i shape
        rw [List.cons.injEq] at shape
        exact absurd (by decide) (noMark _ shape.1 (head?_of_takeWhile shape.2))

/-- The marker of a base is split off first, and every base then goes the same way. -/
theorem readNumber_eq (word : List Char) :
    readNumber word = numberOf (splitRadix word).1 (splitRadix word).2 := by
  unfold readNumber
  rcases splitRadix word with ⟨radix, body⟩
  cases checked : Int128.ofInt? (positional radix (body.filter (· != '_'))) with
  | none => simp only [numberOf, checked]
  | some number => simp only [numberOf, checked]

theorem scans_scanNumber {characters : List Char} {index : Nat} {first : Char} {rest : List Char}
    (position : At characters index (first :: rest)) (inWord : isWordChar first = true)
    (column : Nat) :
    Scans characters (scanNumber characters column) index index column
      ((readNumber (first :: rest.takeWhile isWordChar)).map fun number =>
        ⟨number, (rest.takeWhile isWordChar).length + 1, rest.dropWhile isWordChar⟩) := by
  have body := runs_scanWhile isWordChar position
  have behind := at_scanWhile isWordChar position
  rw [List.takeWhile_cons, if_pos inWord, List.length_cons] at body behind
  rw [List.dropWhile_cons, if_pos inWord] at behind
  refine scans_reportedAt behind ?_
  rw [readNumber_eq]
  refine runs_bind (runs_peek position) (runs_bind (runs_peekNext position) ?_)
  rw [List.head?_cons, List.getElem?_cons_succ, ← List.head?_eq_getElem?]
  rcases radixOf_cases first rest with
    ⟨mark, further, rfl, markInWord, radix, announced, other, wide, narrow, split⟩ | ⟨plain, split⟩
  · rw [announced, List.takeWhile_cons, if_pos markInWord, split]
    have skipped : Runs (skipAnnouncement characters radix) index () (index + 2) := by
      rw [skipAnnouncement, if_neg other]
      exact runs_advance_two position
    have announcedBody := runs_scanWhile isWordChar position.tail.tail
    rw [List.length_cons, Nat.add_assoc, Nat.add_comm _ (1 + 1), ← Nat.add_assoc]
    exact runs_bind skipped
      (runs_bind announcedBody (runs_bind (runs_require ⟨wide, narrow⟩) (runs_pure _)))
  · rw [plain, split]
    exact runs_bind (runs_pure ()) (runs_bind body (runs_bind (runs_require (by decide))
      (runs_pure _)))

end Numbers

section Strings

variable {characters : List Char} {index : Nat} {text : List Char}

theorem scans_scanHexEscape (position : At characters index text) (count column : Nat) :
    Scans characters (scanHexEscape characters count column) index index column
      (readHexEscape count text) := by
  have total := position.length_eq
  unfold readHexEscape
  split
  · rename_i digits
    rw [Bool.and_eq_true, beq_iff_eq] at digits
    have enough : count ≤ text.length := by
      rw [← digits.1, List.length_take]
      exact Nat.min_le_right _ _
    have inside : ¬index + count > characters.length := by omega
    refine scans_reportedAt (position.drop enough) (runs_bind runs_get ?_)
    rw [if_neg inside]
    refine runs_bind (runs_slice position enough) ?_
    rw [if_pos digits.2]
    exact runs_bind (runs_advance position enough) (runs_pure _)
  · rename_i other
    refine ⟨index, runs_bind runs_get ?_⟩
    by_cases beyond : index + count > characters.length
    · rw [if_pos beyond]
      exact runs_pure _
    · have enough : count ≤ text.length := by omega
      have noDigits : ¬(text.take count).all (isDigitOf 16) = true := by
        intro digits
        rw [digits, List.length_take, Nat.min_eq_left enough, beq_self_eq_true] at other
        exact other rfl
      rw [if_neg beyond]
      refine runs_bind (runs_slice position enough) ?_
      rw [if_neg noDigits]
      exact runs_pure _

theorem scans_scanBracedEscape (position : At characters index text) (column : Nat) :
    Scans characters (scanBracedEscape characters column) index index column
      (readBracedEscape text) := by
  have digits := runs_scanWhile (isDigitOf 16) position
  have behind := at_scanWhile (isDigitOf 16) position
  have current := runs_peek behind
  have refused : (text.dropWhile (isDigitOf 16)).head? ≠ some '\x7d' ∨
        (text.takeWhile (isDigitOf 16)).isEmpty ∨ (text.takeWhile (isDigitOf 16)).length > 6 →
      Scans characters (scanBracedEscape characters column) index index column
        (.error .malformedUnicodeEscape) := by
    intro misplaced
    refine ⟨index + (text.takeWhile (isDigitOf 16)).length, ?_⟩
    refine runs_bind digits (runs_bind current ?_)
    rw [if_pos misplaced]
    exact runs_pure _
  unfold readBracedEscape
  split
  · rename_i rest shape
    split
    · rename_i misplaced
      rw [Bool.or_eq_true, decide_eq_true_eq] at misplaced
      exact refused (.inr misplaced)
    · rename_i placed
      rw [Bool.or_eq_true, decide_eq_true_eq, not_or] at placed
      rw [shape] at behind current
      have closed := behind.tail
      rw [Nat.add_assoc] at closed
      refine scans_reportedAt closed (runs_bind digits (runs_bind current ?_))
      rw [if_neg]
      · exact runs_bind (runs_advance_one behind) (runs_pure _)
      · rintro (other | empty | long)
        · exact other rfl
        · exact placed.1 empty
        · exact placed.2 long
  · rename_i noBrace
    apply refused
    left
    intro isBrace
    obtain ⟨rest, shape⟩ := List.head?_eq_some_iff.mp isBrace
    exact noBrace rest shape

theorem readEscape_of_short {first escaped : Char} (isShort : shortEscape? first = some escaped)
    (rest : List Char) : readEscape (first :: rest) = .ok ⟨escaped, 1, rest⟩ := by
  unfold shortEscape? at isShort
  split at isShort
  case h_9 => cases isShort
  all_goals
    cases isShort
    rfl

theorem readEscape_of_unknown {first : Char} (noShort : shortEscape? first = none)
    (noHex : first ≠ 'x') (noUnicode : first ≠ 'u') (rest : List Char) :
    readEscape (first :: rest) = .error (.unknownEscape first) := by
  unfold readEscape
  split
  case h_1 shape => cases shape
  case h_13 other _ _ _ _ _ _ _ _ _ _ _ _ shape =>
    cases shape
    rfl
  case h_10 shape =>
    cases shape
    exact absurd rfl noHex
  case h_11 shape =>
    cases shape
    exact absurd rfl noUnicode
  case h_12 shape =>
    cases shape
    exact absurd rfl noUnicode
  all_goals
    rename_i shape
    cases shape
    cases noShort

theorem scans_scanEscape (position : At characters index text) (column : Nat) :
    Scans characters (scanEscape characters column) index index column (readEscape text) := by
  cases text with
  | nil => exact ⟨index, runs_bind (runs_peek position) (runs_pure _)⟩
  | cons first rest =>
    have current := runs_peek position
    have moved := runs_advance_one position
    have behind := position.tail
    cases short : shortEscape? first with
    | some escaped =>
      rw [readEscape_of_short short]
      refine ⟨behind, runs_bind current (runs_bind moved ?_)⟩
      rw [short]
      exact runs_pure _
    | none =>
      by_cases isHex : first = 'x'
      · subst isHex
        exact (scans_scanHexEscape behind 2 column).widen.step fun result after runs =>
          runs_bind current (runs_bind moved runs)
      by_cases isUnicode : first = 'u'
      · subst isUnicode
        have next := runs_peek behind
        by_cases isBrace : rest.head? = some '\x7b'
        · obtain ⟨digits, rfl⟩ := List.head?_eq_some_iff.mp isBrace
          have opened := runs_advance_one behind
          have braced : Scans characters (scanBracedEscape characters column) (index + 2)
              (index + 2) column (readBracedEscape digits) :=
            scans_scanBracedEscape behind.tail column
          refine braced.widen.step fun result after runs => ?_
          exact runs_bind current (runs_bind moved (runs_bind next (runs_bind opened runs)))
        · have four : readEscape ('u' :: rest) = (readHexEscape 4 rest).map (·.widen 1) := by
            cases rest with
            | nil => rfl
            | cons second further =>
              rw [readEscape]
              rintro digits ⟨⟩
              exact isBrace rfl
          rw [four]
          refine (scans_scanHexEscape behind 4 column).widen.step fun result after runs => ?_
          refine runs_bind current (runs_bind moved (runs_bind next ?_))
          rw [if_neg isBrace]
          exact runs
      · rw [readEscape_of_unknown short isHex isUnicode]
        refine ⟨index + 1, runs_bind current (runs_bind moved ?_)⟩
        rw [short]
        simp only [isHex, isUnicode, ↓reduceIte]
        exact runs_pure _

/-- By induction on the text; the part that is decoded already, and its width, are carried along. -/
theorem scans_scanString {start width : Nat} (position : At characters (start + width) text)
    (column : Nat) (decoded : List Char) :
    Scans characters (scanString characters column decoded) start (start + width) column
      (readString decoded width text) := by
  fun_induction readString decoded width text with
  | case1 decoded width =>
    refine ⟨start + width, runs_repeatM_last ?_⟩
    exact runs_bind (runs_peek position) (runs_pure _)
  | case2 decoded width rest =>
    refine ⟨position.tail, runs_repeatM_last ?_⟩
    exact runs_bind (runs_peek position)
      (runs_bind (runs_advance_one position) (runs_pure _))
  | case3 decoded width rest =>
    refine ⟨start + width + 1, runs_repeatM_last ?_⟩
    exact runs_bind (runs_peek position)
      (runs_bind (runs_advance_one position) (runs_pure _))
  | case4 decoded width rest cause failed =>
    have escape := scans_scanEscape position.tail column
    rw [failed] at escape
    obtain ⟨after, runs⟩ := escape
    refine ⟨after, runs_repeatM_last ?_⟩
    exact runs_bind (runs_peek position) (runs_bind (runs_advance_one position)
      (runs_orEnd_fault runs))
  | case5 decoded width rest scanned read inductionHypothesis =>
    have escape := scans_scanEscape position.tail column
    rw [read] at escape
    obtain ⟨behind, runs⟩ := escape
    have shift : start + width + 1 + scanned.width = start + (width + scanned.width + 1) := by omega
    rw [shift] at behind runs
    refine (inductionHypothesis behind).step fun result after => runs_repeatM_next ?_
    exact runs_bind (runs_peek position) (runs_bind (runs_advance_one position)
      (runs_orEnd runs (runs_pure _)))
  | case6 decoded width rest other noQuote noBreak noBackslash inductionHypothesis =>
    refine (inductionHypothesis position.tail).step fun result after => runs_repeatM_next ?_
    refine runs_bind (runs_peek position) (runs_bind (runs_advance_one position) ?_)
    rw [if_neg noQuote, if_neg noBackslash, if_neg noBreak]
    exact runs_pure _

end Strings

/-! ## Tokens -/

section Tokens

variable {characters : List Char} {index : Nat} {first : Char} {rest : List Char}
  (position : At characters index (first :: rest)) (column : Nat)

include position

theorem scans_scanSymbol :
    Scans characters ((scanSymbol characters first column).andThen fun symbol =>
      pure (.ok (.symbol symbol))) index index column (readSymbol first rest) := by
  have next := runs_peekNext position
  rw [List.getElem?_cons_succ, ← List.head?_eq_getElem?] at next
  cases pair : rest.head?.bind (Symbol.ofPair? first) with
  | some symbol =>
    obtain ⟨second, isSecond, isPair⟩ := Option.bind_eq_some_iff.mp pair
    obtain ⟨others, rfl⟩ := List.head?_eq_some_iff.mp isSecond
    have moved := runs_advance_two position
    rw [readSymbol, isPair]
    refine ⟨position.tail.tail, runs_andThen (runs_bind next ?_) (runs_pure _)⟩
    rw [pair]
    exact runs_bind moved (runs_pure _)
  | none =>
    have single : readSymbol first rest = readSymbol.single first rest := by
      cases rest with
      | nil => rfl
      | cons second others =>
        have noPair : Symbol.ofPair? first second = none := pair
        rw [readSymbol, noPair]
    rw [single, readSymbol.single]
    cases isSymbol : Symbol.ofChar? first with
    | some symbol =>
      have moved := runs_advance_one position
      refine ⟨position.tail, runs_andThen (runs_bind next ?_) (runs_pure _)⟩
      rw [pair, isSymbol]
      exact runs_bind moved (runs_pure _)
    | none =>
      refine ⟨index, runs_andThen_fault (runs_bind next ?_)⟩
      rw [pair, isSymbol]
      exact runs_pure _

theorem scans_scanToken :
    Scans characters (scanToken characters first column) index index column
      (readToken first rest) := by
  unfold scanToken readToken
  by_cases isDigit : first.isDigit = true
  · have inWord : isWordChar first = true := by
      simp only [isWordChar, Char.isAlphanum, isDigit, Bool.or_true, Bool.true_or]
    have isNumber : readWord (first :: rest.takeWhile isWordChar) =
        (readNumber (first :: rest.takeWhile isWordChar)).map .int := by
      rw [readWord, List.head?_cons, Option.map_some, Option.getD_some, if_pos isDigit]
    rw [if_pos isDigit, if_pos inWord, isNumber]
    have scans : Scans characters ((scanNumber characters column).andThen fun number =>
        pure (.ok (TokenKind.int number))) index index column _ :=
      (scans_scanNumber position inWord column).map
    cases outcome : readNumber (first :: rest.takeWhile isWordChar)
    all_goals
      rw [outcome] at scans
      exact scans
  rw [if_neg isDigit]
  by_cases isQuote : first = '"'
  · subst isQuote
    have moved := runs_advance_one position
    have scans : Scans characters ((scanString characters column []).andThen fun text =>
        pure (.ok (TokenKind.string text))) index (index + 1) column _ :=
      (scans_scanString position.tail column []).map
    exact scans.step fun result after runs => runs_bind moved runs
  rw [if_neg isQuote, if_neg isQuote]
  by_cases inWord : isWordChar first = true
  · have startsWord : (first.isAlpha || first == '_') = true := by
      simp only [isWordChar, Char.isAlphanum, isDigit, Bool.or_false] at inWord
      exact inWord
    have word := runs_scanWhile isWordChar position
    have behind := at_scanWhile isWordChar position
    rw [List.takeWhile_cons, if_pos inWord, List.length_cons] at word behind
    rw [List.dropWhile_cons, if_pos inWord] at behind
    rw [if_pos startsWord, if_pos inWord, readWord, List.head?_cons, Option.map_some,
      Option.getD_some, if_neg isDigit]
    cases keyword : keyword? (first :: rest.takeWhile isWordChar) with
    | some kind =>
      refine ⟨behind, runs_bind word ?_⟩
      rw [keyword]
      exact runs_pure _
    | none =>
      refine ⟨index + ((rest.takeWhile isWordChar).length + 1), runs_bind word ?_⟩
      rw [keyword]
      exact runs_pure _
  · have startsNoWord : ¬(first.isAlpha || first == '_') = true := by
      simp only [isWordChar, Char.isAlphanum, isDigit, Bool.or_false] at inWord
      exact inWord
    rw [if_neg startsNoWord, if_neg inWord]
    exact scans_scanSymbol position column

end Tokens

/-! ## Whole texts -/

theorem ne_endOfText_of_keyword {word : List Char} {kind : TokenKind}
    (keyword : keyword? word = some kind) : kind ≠ .endOfText := by
  unfold keyword? at keyword
  repeat' split at keyword
  all_goals cases keyword
  all_goals exact TokenKind.noConfusion

/-- No token of a text is its end. -/
theorem ne_endOfText_of_readToken {first : Char} {rest : List Char} {scanned : Scanned TokenKind}
    (read : readToken first rest = .ok scanned) : scanned.value ≠ .endOfText := by
  unfold readToken at read
  split at read
  · obtain ⟨kind, isKind, rfl⟩ := map_eq_ok_iff.mp read
    unfold readWord at isKind
    split at isKind
    · obtain ⟨number, -, rfl⟩ := map_eq_ok_iff.mp isKind
      exact TokenKind.noConfusion
    split at isKind
    · rename_i keyword
      cases isKind
      exact ne_endOfText_of_keyword keyword
    · cases isKind
  split at read
  · obtain ⟨inner, -, rfl⟩ := map_eq_ok_iff.mp read
    exact TokenKind.noConfusion
  · unfold readSymbol readSymbol.single at read
    repeat' split at read
    all_goals cases read
    all_goals exact TokenKind.noConfusion

/-- The tokens of a text, or its fault, are what the program ends with. -/
theorem runs_lexAll {characters : List Char} {index : Nat} {text : List Char}
    (position : At characters index text) (seen : List Token) :
    match lexFrom seen (index + 1) text with
    | .error fault => ∃ after, Runs (lexAll characters seen) index (.error fault) after
    | .ok stream => ∃ after, Runs (lexAll characters seen) index (.ok stream.toList) after := by
  generalize column_eq : index + 1 = column
  fun_induction lexFrom seen column text generalizing index with
  -- A comment is not closed.
  | case1 seen column text fault skipped =>
    subst column_eq
    have gap := scansGap_skipGap .between position
    rw [skipped] at gap
    obtain ⟨after, runs⟩ := gap
    exact ⟨after, runs_repeatM_last (runs_orEnd_fault (runs_andThen_fault runs))⟩
  -- Nothing but a gap is left.
  | case2 seen column text start skipped =>
    subst column_eq
    have gap := scansGap_skipGap .between position
    rw [skipped] at gap
    obtain ⟨after, rfl, behind, runs⟩ := gap
    refine ⟨after, ?_⟩
    have token : Runs (nextToken characters) index (.ok ⟨.endOfText, after + 1⟩) after :=
      runs_andThen runs (runs_bind runs_get (runs_bind (runs_peek behind) (runs_pure _)))
    rw [TokenStream.toList_ofInit, ← List.reverse_cons]
    exact runs_repeatM_last (runs_orEnd token (runs_pure _))
  -- What stands behind the gap is no token.
  | case3 seen column text start first rest skipped cause failed =>
    subst column_eq
    have gap := scansGap_skipGap .between position
    rw [skipped] at gap
    obtain ⟨middle, rfl, behind, runs⟩ := gap
    have token := scans_scanToken behind (middle + 1)
    rw [failed] at token
    obtain ⟨after, faults⟩ := token
    refine ⟨after, runs_repeatM_last ?_⟩
    exact runs_orEnd_fault (runs_andThen runs (runs_bind runs_get
      (runs_bind (runs_peek behind) (runs_andThen_fault faults))))
  -- A token is read, and the loop goes on behind it.
  | case4 seen column text start first rest skipped scanned read inductionHypothesis =>
    subst column_eq
    have gap := scansGap_skipGap .between position
    rw [skipped] at gap
    obtain ⟨middle, rfl, behind, runs⟩ := gap
    have token := scans_scanToken behind (middle + 1)
    rw [read] at token
    obtain ⟨further, found⟩ := token
    have next : Runs (nextToken characters) index (.ok ⟨scanned.value, middle + 1⟩)
        (middle + scanned.width) :=
      runs_andThen runs (runs_bind runs_get
        (runs_bind (runs_peek behind) (runs_andThen found (runs_pure _))))
    have others := inductionHypothesis further (Nat.add_right_comm _ _ _)
    have goesOn : Runs (tokenTurn characters seen) index
        (.inl (⟨scanned.value, middle + 1⟩ :: seen)) (middle + scanned.width) := by
      refine runs_orEnd next ?_
      rw [if_neg (ne_endOfText_of_readToken read)]
      exact runs_pure _
    split at others
    · obtain ⟨after, faults⟩ := others
      exact ⟨after, runs_repeatM_next goesOn faults⟩
    · obtain ⟨after, ends⟩ := others
      exact ⟨after, runs_repeatM_next goesOn ends⟩

end CompilerFront.Expr.Guarded.Lexer
