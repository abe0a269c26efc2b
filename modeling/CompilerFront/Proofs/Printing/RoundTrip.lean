import CompilerFront.Expr.Constant
import CompilerFront.Proofs.Grammar.Acceptance
import CompilerFront.Proofs.Printing.Literals

/-!
Contract: a printed value is one line, and an expression that denotes the value.

Owns:
- `evaluate_text_roundtrip`: every value but the least integer evaluates to itself when printed, the
  least integer overflows, and no printed value holds a control character.

The least integer is printed as a minus before a literal that is out of range, so that no expression
of its printed form denotes it.
-/

namespace CompilerFront.Expr

open Grammar (Closes)
open CompilerFront.Expr.Parser (Reads leaf?)

/-! ## Trees of one operand -/

section Trees

variable {depth : Nat} {stream rest : TokenStream} {read : Measured}

/-- A literal is read as an operand when no postfix operator follows it. -/
theorem reads_literal {tree : Tree} (isLeaf : leaf? stream.current.kind = some tree)
    (noMark : stream.advance.atSymbol .bangBang = false) :
    Reads depth .unary stream (.ok (⟨tree, 1⟩, stream.advance)) := by
  have noSign : Parser.prefixAt stream = none := by
    unfold Parser.prefixAt
    split
    · rename_i symbol isSymbol
      rw [isSymbol] at isLeaf
      cases isLeaf
    · rfl
  exact .unsigned noSign (.postfixed (.leaf isLeaf) (.noMark noMark))

/-- An operand before the end of an expression is the expression. -/
theorem reads_conditional_of_unary (room : depth < nestingLimit) (closes : Closes rest)
    (operandRead : Reads (depth + 1) .unary stream (.ok (read, rest))) :
    Reads depth .conditional stream (.ok (read, rest)) := by
  have stops := Grammar.stops_of_operatorAt (Grammar.operatorAt_of_closes closes) 0
  exact .enter room (.noQuestion (.operands operandRead (.stop stops))
    (Grammar.not_question_of_closes closes))

/-- What is read up to the end of the text is the tree of the tokens. -/
theorem ofTokens_of_reads (isEnd : rest.current.kind = .endOfText)
    (reads : Reads 0 .conditional stream (.ok (read, rest))) :
    Tree.ofTokens stream = .ok read.tree := by
  rw [Grammar.ofTokens_eq, Parser.read_eq_of_reads reads]
  exact if_pos isEnd

end Trees

theorem ofTokens_literal {kind : TokenKind} {tree : Tree} (isLeaf : leaf? kind = some tree)
    (column finish : Nat) :
    Tree.ofTokens (.ofInit [⟨kind, column⟩] ⟨.endOfText, finish⟩) = .ok tree := by
  have literalRead : Reads 1 .unary (.ofInit [⟨kind, column⟩] ⟨.endOfText, finish⟩)
      (.ok (⟨tree, 1⟩, .ofInit [] ⟨.endOfText, finish⟩)) := reads_literal isLeaf rfl
  exact ofTokens_of_reads rfl (reads_conditional_of_unary (by decide) (.inl rfl) literalRead)

/-- A negative number comes back as a sign on a literal, hence the exception for the least
integer. -/
theorem ofTokens_minus {kind : TokenKind} {tree : Tree} (isLeaf : leaf? kind = some tree)
    (column next finish : Nat) :
    Tree.ofTokens (.ofInit [⟨.symbol .minus, column⟩, ⟨kind, next⟩] ⟨.endOfText, finish⟩) =
      .ok (.unary .negate tree column) := by
  have literalRead : Reads 2 .unary (.ofInit [⟨kind, next⟩] ⟨.endOfText, finish⟩)
      (.ok (⟨tree, 1⟩, .ofInit [] ⟨.endOfText, finish⟩)) := reads_literal isLeaf rfl
  have minusRead : Reads 1 .unary
      (.ofInit [⟨.symbol .minus, column⟩, ⟨kind, next⟩] ⟨.endOfText, finish⟩)
      (.ok (.unary .negate ⟨tree, 1⟩ column, .ofInit [] ⟨.endOfText, finish⟩)) :=
    .signed rfl (by decide) literalRead (show 2 ≤ nestingLimit by decide)
  exact ofTokens_of_reads rfl (reads_conditional_of_unary (by decide) (.inl rfl) minusRead)

/-! ## Values -/

theorem evaluate_leaf_literal (value : Value) :
    ∃ tree, leaf? value.literal = some tree ∧ tree.evaluate = .ok value := by
  cases value with
  | int | bool | null | string => exact ⟨_, rfl, rfl⟩

theorem evaluate_text_of_unsigned {value : Value} (unsigned : value.Unsigned) :
    evaluate value.text = .ok value := by
  have tokens := lexFrom_literal unsigned endsWord_nil [] 1
  rw [List.append_nil, lexFrom_nil] at tokens
  obtain ⟨tree, isLeaf, denotes⟩ := evaluate_leaf_literal value
  have parsed := ofTokens_literal isLeaf 1 (1 + value.characters.length)
  rw [evaluate, Value.text, String.toList_ofList, lex, tokens]
  simp only [List.reverse_cons, List.reverse_nil, List.nil_append, parsed, denotes]

section Negative

variable {number : Int128} (negative : number.toInt < 0)

include negative

/-- A printed negative integer is a minus and its absolute value, which may be out of range. -/
theorem lex_text_of_negative :
    lex (Value.int number).text.toList =
      match Int128.ofInt? (-number.toInt) with
      | some absolute => .ok (.ofInit [⟨.symbol .minus, 1⟩, ⟨.int absolute, 2⟩]
          ⟨.endOfText, 2 + (Nat.toDigits 10 number.toInt.natAbs).length⟩)
      | none => .error ⟨2, .numberTooLarge⟩ := by
  have digits := lexFrom_digits endsWord_nil [⟨.symbol .minus, 1⟩] 2 number.toInt.natAbs
  rw [List.append_nil, Int.ofNat_natAbs_of_nonpos (Int.le_of_lt negative)] at digits
  rw [Value.text, String.toList_ofList, Value.characters, Int128.text, if_pos negative, lex,
    lexFrom_minus, digits]
  cases Int128.ofInt? (-number.toInt) with
  | none => rfl
  | some absolute => exact lexFrom_nil

/-- A printed negative integer evaluates to the integer, unless it is the least one. -/
theorem evaluate_text_of_negative (notLeast : number ≠ .least) :
    evaluate (Value.int number).text = .ok (.int number) := by
  have lower := number.lower_le
  have above : number.toInt ≠ Int128.least.toInt := fun same => notLeast (Int128.ext same)
  have tokens := lex_text_of_negative negative
  cases found : Int128.ofInt? (-number.toInt) with
  | none =>
    have outside := Int128.ofInt?_eq_none_iff.mp found
    simp only [Int128.least] at above
    omega
  | some absolute =>
    rw [found] at tokens
    have back : -absolute.toInt = number.toInt := by
      rw [Int128.ofInt?_eq_some_iff.mp found, Int.neg_neg]
    have isLeaf : leaf? (.int absolute) = some (.int absolute) := rfl
    have parsed := ofTokens_minus isLeaf 1 2 (2 + (Nat.toDigits 10 number.toInt.natAbs).length)
    rw [evaluate, tokens]
    simp only [parsed, Tree.evaluate, Except.bind, UnaryOperator.apply, Outcome.expectInt,
      Outcome.ofInt, back, Int128.ofInt?_toInt, Except.map, Outcome.reportedAt]

end Negative

/-- The printed least integer overflows at its first digit. -/
theorem evaluate_text_least :
    evaluate (Value.int .least).text = .error ⟨2, .lexical .numberTooLarge⟩ := by
  rw [evaluate, lex_text_of_negative (by decide)]
  rfl

/-! ## Lines -/

theorem not_isControl_of_mem_characters (value : Value) :
    ∀ character ∈ value.characters, Text.isControl character = false := by
  have keyword : ∀ word : List Char, (word.all fun character => !Text.isControl character) = true →
      ∀ character ∈ word, Text.isControl character = false := by
    intro word shown character member
    have isShown := List.all_eq_true.mp shown character member
    rwa [Bool.not_eq_true'] at isShown
  cases value with
  | int number =>
    have digits : ∀ character ∈ Nat.toDigits 10 number.toInt.natAbs,
        Text.isControl character = false := fun _ member =>
      not_isControl_of_isDigitOf (isDigitOf_of_mem_toDigits (show 1 < 10 by decide) (by decide) _ _
        member)
    rw [Value.characters, Int128.text]
    split
    · intro character member
      rcases List.mem_cons.mp member with rfl | digit
      · decide
      · exact digits character digit
    · exact digits
  | bool truth =>
    apply keyword
    cases truth <;> rfl
  | null => exact keyword _ rfl
  | string text =>
    intro character member
    rw [Value.characters, Value.quote, List.mem_cons, List.mem_append, List.mem_flatMap,
      List.mem_singleton] at member
    rcases member with rfl | ⟨original, -, shown⟩ | rfl
    · decide
    · exact not_isControl_of_mem_escape original character shown
    · decide

/-- Printing and evaluating are inverse to each other: every value but the least integer is found
again, from a printed form that is one line. The least integer is printed as a sign and a number
that is out of range without it, so its text overflows at the number. -/
theorem evaluate_text_roundtrip :
    (∀ value : Value, value ≠ .int .least → evaluate value.text = .ok value) ∧
      (∃ fault, evaluate (Value.int .least).text = .error fault ∧ fault.column = 2 ∧
        fault.cause.message = "Integer overflow") ∧
      (∀ value : Value, (∀ character ∈ value.text.toList, Text.isControl character = false) ∧
        '\n' ∉ value.text.toList) ∧
      ∀ source value, evaluate source = .ok value → value ≠ .int .least →
        (evaluate value.text).map Value.text = .ok value.text := by
  have found : ∀ value : Value, value ≠ .int .least → evaluate value.text = .ok value := by
    intro value notLeast
    by_cases unsigned : value.Unsigned
    · exact evaluate_text_of_unsigned unsigned
    · cases value with
      | bool | null | string => exact (unsigned fun _ other => Value.noConfusion other).elim
      | int number =>
        have negative : number.toInt < 0 := by
          refine Int.not_le.mp fun nonnegative => unsigned ?_
          rintro _ ⟨⟩
          exact nonnegative
        exact evaluate_text_of_negative negative fun least => notLeast (congrArg Value.int least)
  refine ⟨found, ⟨_, evaluate_text_least, rfl, rfl⟩, fun value => ?_, ?_⟩
  · have shown := not_isControl_of_mem_characters value
    rw [Value.text, String.toList_ofList]
    refine ⟨shown, fun broken => ?_⟩
    have isShown := shown '\n' broken
    cases isShown
  · intro source value _ notLeast
    rw [found value notLeast]
    rfl

/-- A string with controls of all three families of escapes. -/
def controls : Value := .string "line\nbell\x07next\u0085"

/-- Three escapes of different lengths, so that each ends where the next character begins. -/
theorem evaluate_text_controls :
    controls ≠ .int .least ∧ evaluate controls.text = .ok controls ∧
      (evaluate controls.text).map Value.text = .ok controls.text := by
  have notLeast : controls ≠ .int .least := fun same => Value.noConfusion same
  have found := evaluate_text_roundtrip.1 controls notLeast
  exact ⟨notLeast, found, evaluate_text_roundtrip.2.2.2 controls.text controls found notLeast⟩

end CompilerFront.Expr
