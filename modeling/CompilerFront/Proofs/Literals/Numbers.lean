import CompilerFront.Proofs.Literals.Digits
import CompilerFront.Proofs.Segmentation.Places

/-!
Contract: number literals are read exactly.

Owns:
- `Base.Announces`, by which a word says in which base its body is written;
- `Underscored`, rows of characters with single underscores between them, and `Base.Spells`, the
  bodies that spell a row of values;
- `NumberDefect`, all that can be wrong with a number literal, with its words;
- `lex_numbers`, by which a word that starts with a digit is the number that it spells, or a fault
  that says what is wrong with it.

Does not own: where tokens start (`CompilerFront.Proofs.Segmentation.Places`).
-/

namespace CompilerFront.Expr

/-! ## Announcements -/

namespace Base

/-- The letters that announce a base behind a zero. -/
def letters : Base → List Char
  | binary => ['b', 'B']
  | octal => ['o', 'O']
  | decimal => []
  | hexadecimal => ['x', 'X']

/-- A word announces the base in which the rest of it is written; when it announces none, all of it
is a decimal. -/
inductive Announces : Base → List Char → List Char → Prop where
  | letter {base : Base} {letter : Char} {body : List Char} (member : letter ∈ base.letters) :
      Announces base ('0' :: letter :: body) body
  | plain {word : List Char}
      (unannounced : ∀ base : Base, ∀ letter ∈ base.letters, ∀ body, word ≠ '0' :: letter :: body) :
      Announces decimal word word

variable {base : Base} {word body : List Char}

theorem Announces.splitRadix_eq (announces : base.Announces word body) :
    splitRadix word = (base.radix, body) := by
  cases announces with
  | letter member =>
    cases base <;> simp only [letters, List.mem_cons, List.not_mem_nil, or_false] at member
    · obtain rfl | rfl := member <;> rfl
    · obtain rfl | rfl := member <;> rfl
    · obtain rfl | rfl := member <;> rfl
  | plain unannounced =>
    unfold splitRadix
    split
    · exact absurd rfl (unannounced hexadecimal 'x' (by decide) _)
    · exact absurd rfl (unannounced hexadecimal 'X' (by decide) _)
    · exact absurd rfl (unannounced octal 'o' (by decide) _)
    · exact absurd rfl (unannounced octal 'O' (by decide) _)
    · exact absurd rfl (unannounced binary 'b' (by decide) _)
    · exact absurd rfl (unannounced binary 'B' (by decide) _)
    · rfl

/-- Every word announces a base, if only by announcing no other than the decimal one. -/
theorem exists_announces (word : List Char) : ∃ base body, Announces base word body := by
  by_cases announced : ∃ base : Base, ∃ letter ∈ base.letters, ∃ body, word = '0' :: letter :: body
  · obtain ⟨base, letter, member, body, rfl⟩ := announced
    exact ⟨base, body, .letter member⟩
  · refine ⟨decimal, word, .plain ?_⟩
    intro base letter member body shape
    exact announced ⟨base, letter, member, body, shape⟩

end Base

/-! ## Underscores -/

/-- A row of characters, with an underscore or none between each two neighbours. -/
inductive Underscored : List Char → List Char → Prop where
  | single (only : Char) : Underscored [only] [only]
  | next (first : Char) {row body : List Char} (others : Underscored row body) :
      Underscored (first :: row) (first :: body)
  | spaced (first : Char) {row body : List Char} (others : Underscored row body) :
      Underscored (first :: row) (first :: '_' :: body)

section Underscores

variable {row body : List Char}

theorem Underscored.head?_eq (underscored : Underscored row body) : body.head? = row.head? := by
  cases underscored <;> rfl

theorem Underscored.ne_nil (underscored : Underscored row body) : body ≠ [] := by
  cases underscored <;> exact List.cons_ne_nil _ _

/-- What is left of the row without its underscores. -/
theorem Underscored.filter_eq (underscored : Underscored row body)
    (noUnderscore : ∀ character ∈ row, character ≠ '_') : body.filter (· != '_') = row := by
  induction underscored with
  | single only =>
    have kept := noUnderscore only List.mem_cons_self
    simp [kept]
  | next first _ inductionHypothesis | spaced first _ inductionHypothesis =>
    rw [List.forall_mem_cons] at noUnderscore
    simp [noUnderscore.1, inductionHypothesis noUnderscore.2]

/-- A character that is no underscore may be followed by anything that stands well by itself. -/
theorem underscoresSingle_cons {first : Char} (kept : first ≠ '_')
    (single : underscoresSingle body = true) : underscoresSingle (first :: body) = true := by
  cases body with
  | nil => simp [underscoresSingle]
  | cons second others =>
    have secondKept : second ≠ '_' := by
      rintro rfl
      cases single
    simp [underscoresSingle, secondKept, single]

theorem underscoresSingle_spaced {first : Char} (kept : first ≠ '_') (nonempty : body ≠ [])
    (single : underscoresSingle body = true) :
    underscoresSingle (first :: '_' :: body) = true := by
  cases body with
  | nil => exact absurd rfl nonempty
  | cons second others =>
    have secondKept : second ≠ '_' := by
      rintro rfl
      cases single
    simp [underscoresSingle, secondKept, single]

theorem Underscored.underscoresSingle (underscored : Underscored row body)
    (noUnderscore : ∀ character ∈ row, character ≠ '_') : underscoresSingle body = true := by
  induction underscored with
  | single only =>
    have kept := noUnderscore only List.mem_cons_self
    simp [CompilerFront.Expr.underscoresSingle]
  | next first _ inductionHypothesis =>
    rw [List.forall_mem_cons] at noUnderscore
    exact underscoresSingle_cons noUnderscore.1 (inductionHypothesis noUnderscore.2)
  | spaced first others inductionHypothesis =>
    rw [List.forall_mem_cons] at noUnderscore
    exact underscoresSingle_spaced noUnderscore.1 others.ne_nil (inductionHypothesis noUnderscore.2)

/-- Taking the underscores away gives the row that they were put into. -/
theorem underscored_of_single (nonempty : body ≠ []) (single : underscoresSingle body = true) :
    Underscored (body.filter (· != '_')) body := by
  fun_induction underscoresSingle body with
  | case1 => exact absurd rfl nonempty
  | case2 => cases single
  | case3 only kept =>
    have unfiltered : [only].filter (· != '_') = [only] := by simpa using kept
    rw [unfiltered]
    exact .single only
  | case4 => cases single
  | case5 first kept second others inductionHypothesis =>
    rw [Bool.and_eq_true] at single
    rw [List.filter_cons_of_pos (by simpa using kept), List.filter_cons_of_neg (by simp)]
    exact .spaced first (inductionHypothesis (List.cons_ne_nil _ _) single.2)
  | case6 first rest kept more _ inductionHypothesis =>
    rw [List.filter_cons_of_pos (by simpa using kept)]
    exact .next first (inductionHypothesis more single)

end Underscores

/-! ## Spelled bodies -/

namespace Base

/-- A body spells a row of values: their digits, with single underscores between them or none. -/
def Spells (base : Base) (body : List Char) (values : List Nat) : Prop :=
  ∃ row, Underscored row body ∧ base.Spelled row values

/-- A decimal with more than one digit starts with a zero. -/
def LeadingZero (base : Base) (body : List Char) (values : List Nat) : Prop :=
  base = decimal ∧ 1 < values.length ∧ body.head? = some '0'

variable {base : Base} {word body : List Char} {values : List Nat}

theorem Spells.filter_eq (spells : base.Spells body values) :
    Underscored (body.filter (· != '_')) body ∧ base.Spelled (body.filter (· != '_')) values := by
  obtain ⟨row, underscored, spelled⟩ := spells
  have noUnderscore : ∀ character ∈ row, character ≠ '_' := by
    intro character member
    obtain ⟨value, digit⟩ := spelled.digit_of_mem character member
    exact digit.ne_underscore
  rw [underscored.filter_eq noUnderscore]
  exact ⟨underscored, spelled⟩

/-- The checks of the reader find nothing just when the body spells some values. -/
theorem exists_spells_iff :
    (∃ values, base.Spells body values) ↔
      (body.isEmpty || !underscoresSingle body ||
        !(body.filter (· != '_')).all (isDigitOf base.radix)) = false := by
  simp only [Bool.or_eq_false_iff, List.isEmpty_eq_false_iff, Bool.not_eq_false',
    List.all_eq_true, and_assoc]
  constructor
  · rintro ⟨values, spells⟩
    obtain ⟨underscored, spelled⟩ := spells.filter_eq
    refine ⟨underscored.ne_nil, underscored.underscoresSingle ?_, spelled.isDigitOf⟩
    intro character member
    exact bne_iff_ne.mp (List.mem_filter.mp member).2
  · rintro ⟨nonempty, single, digits⟩
    obtain ⟨values, spelled⟩ := exists_spelled digits
    exact ⟨values, _, underscored_of_single nonempty single, spelled⟩

/-- The reader's check of decimals looks at the digits alone: is a zero in front of others? -/
theorem Spells.leadingZero_iff (spells : base.Spells body values) :
    base.LeadingZero body values ↔
      (base.radix == 10 && decide ((body.filter (· != '_')).length > 1) &&
        (body.filter (· != '_')).head? == some '0') = true := by
  obtain ⟨underscored, spelled⟩ := spells.filter_eq
  have isDecimal : base.radix = 10 ↔ base = decimal := by
    cases base <;> decide
  simp only [LeadingZero, Bool.and_eq_true, beq_iff_eq, decide_eq_true_eq, isDecimal,
    ← underscored.head?_eq, spelled.length_eq, gt_iff_lt, and_assoc]

end Base

/-! ## Defects -/

inductive NumberDefect where
  | malformed
  | leadingZeros
  | tooLarge

namespace NumberDefect

/-- When there is this wrong with a body, and nothing that is looked for before it. -/
def Applies (base : Base) (body : List Char) : NumberDefect → Prop
  | malformed => ∀ values, ¬base.Spells body values
  | leadingZeros => ∃ values, base.Spells body values ∧ base.LeadingZero body values
  | tooLarge => ∃ values, base.Spells body values ∧ ¬base.LeadingZero body values ∧
    2 ^ 127 ≤ base.number values

def message (body : List Char) : NumberDefect → String
  | malformed => s!"Invalid number literal `{String.ofList body}`"
  | leadingZeros => s!"Decimal literal `{String.ofList body}` must not have leading zeros"
  | tooLarge => "Integer overflow"

def cause (body : List Char) : NumberDefect → LexicalFault
  | malformed => .malformedNumber body
  | leadingZeros => .leadingZeros body
  | tooLarge => .numberTooLarge

theorem message_cause (body : List Char) (defect : NumberDefect) :
    (defect.cause body).message = defect.message body := by
  cases defect <;> rfl

/-- The third character of what is said tells the defects apart. -/
def letter : NumberDefect → Char
  | malformed => 'v'
  | leadingZeros => 'c'
  | tooLarge => 't'

theorem message_letter (body : List Char) (defect : NumberDefect) :
    (defect.message body).toList[2]? = some defect.letter := by
  cases defect with
  | malformed =>
    show ("Invalid number literal `" ++ String.ofList body ++ "`").toList[2]? = some 'v'
    simp
  | leadingZeros =>
    show ("Decimal literal `" ++ String.ofList body ++ _).toList[2]? = some 'c'
    simp
  | tooLarge =>
    show "Integer overflow".toList[2]? = some 't'
    simp

/-- The messages tell the defects apart, already by their third letter. -/
theorem message_injective (body : List Char) : Function.Injective (message body) := by
  intro defect other same
  have letters : some defect.letter = some other.letter := by
    rw [← message_letter body, same, message_letter]
  cases defect <;> cases other <;> first | rfl | cases letters

end NumberDefect

/-! ## Reading -/

section Reading

variable {base : Base} {word body : List Char} {values : List Nat}

theorem readNumber_of_not_spells (announces : base.Announces word body)
    (senseless : ∀ values, ¬base.Spells body values) :
    readNumber word = .error (.malformedNumber body) := by
  have found := mt Base.exists_spells_iff.mpr (not_exists.mpr senseless)
  rw [readNumber, announces.splitRadix_eq]
  exact if_pos (Bool.of_not_eq_false found)

/-- A zero in front is found before the size of the number is looked at. -/
theorem readNumber_of_leadingZero (announces : base.Announces word body)
    (spells : base.Spells body values) (leadingZero : base.LeadingZero body values) :
    readNumber word = .error (.leadingZeros body) := by
  have sensible := Base.exists_spells_iff.mp ⟨values, spells⟩
  rw [readNumber, announces.splitRadix_eq]
  simp only [sensible, spells.leadingZero_iff.mp leadingZero, Bool.false_eq_true, ↓reduceIte]

theorem readNumber_of_spells (announces : base.Announces word body)
    (spells : base.Spells body values) (noLeadingZero : ¬base.LeadingZero body values) :
    readNumber word =
      match Int128.ofInt? (base.number values) with
      | some number => .ok number
      | none => .error .numberTooLarge := by
  have sensible := Base.exists_spells_iff.mp ⟨values, spells⟩
  rw [readNumber, announces.splitRadix_eq]
  have sound := mt spells.leadingZero_iff.mpr noLeadingZero
  cases found : Int128.ofInt? (base.number values) <;>
    simp only [sensible, sound, spells.filter_eq.2.positional, found, Bool.false_eq_true,
      ↓reduceIte]

theorem readNumber_of_applies {defect : NumberDefect} (announces : base.Announces word body)
    (applies : defect.Applies base body) : readNumber word = .error (defect.cause body) := by
  cases defect with
  | malformed => exact readNumber_of_not_spells announces applies
  | leadingZeros =>
    obtain ⟨values, spells, leadingZero⟩ := applies
    exact readNumber_of_leadingZero announces spells leadingZero
  | tooLarge =>
    obtain ⟨values, spells, noLeadingZero, large⟩ := applies
    have beyond : Int128.ofInt? (base.number values) = none := by
      rw [Int128.ofInt?_eq_none_iff]
      omega
    rw [readNumber_of_spells announces spells noLeadingZero, beyond]
    rfl

/-- A body with nothing wrong about it denotes a number: it spells it in its base without a zero in
front, and the number is in range. -/
def Denotes (base : Base) (body : List Char) (number : Int128) : Prop :=
  ∃ values, base.Spells body values ∧ ¬base.LeadingZero body values ∧
    base.number values < 2 ^ 127 ∧ number.toInt = base.number values

theorem readNumber_of_denotes {number : Int128} (announces : base.Announces word body)
    (denotes : Denotes base body number) : readNumber word = .ok number := by
  obtain ⟨values, spells, noLeadingZero, -, value⟩ := denotes
  rw [readNumber_of_spells announces spells noLeadingZero, Int128.ofInt?_eq_some_iff.mpr value]

/-- There is something wrong with a body, or it denotes a number. -/
theorem applies_or_denotes (base : Base) (body : List Char) :
    (∃ defect : NumberDefect, defect.Applies base body) ∨ ∃ number, Denotes base body number := by
  by_cases senseless : ∀ values, ¬base.Spells body values
  · exact .inl ⟨.malformed, senseless⟩
  push Not at senseless
  obtain ⟨values, spells⟩ := senseless
  by_cases leadingZero : base.LeadingZero body values
  · exact .inl ⟨.leadingZeros, values, spells, leadingZero⟩
  by_cases small : base.number values < 2 ^ 127
  · exact .inr ⟨⟨base.number values, by omega, by omega⟩, values, spells, leadingZero, small, rfl⟩
  · exact .inl ⟨.tooLarge, values, spells, leadingZero, Nat.le_of_not_lt small⟩

end Reading

/-! ## Words in a text -/

/-- A word that starts with a digit, where a token starts and with all characters of words that
follow: letters, digits and underscores. -/
structure NumberWord (before : List Char) (first : Char) (others behind : List Char) : Prop where
  leads : Leads before (first :: (others ++ behind))
  digit : first.isDigit = true
  inWord : ∀ character ∈ others, isWordChar character = true
  ends : EndsWord behind

/-- What is found where a word is read as a number: the token of the number that its body spells, or
a fault that says what is wrong with the body. -/
structure ReadsNumber (base : Base) (body word behind : List Char)
    (found : Except LexicalFault (Scanned TokenKind)) : Prop where
  granted : ∀ scanned, found = .ok scanned ↔
    ∃ number, Denotes base body number ∧ scanned = ⟨.int number, word.length, behind⟩
  refused : ∀ defect : NumberDefect,
    (∃ cause, found = .error cause ∧ cause.message = defect.message body) ↔
      defect.Applies base body

theorem readsNumber {base : Base} {body : List Char} {first : Char} {others behind : List Char}
    (digit : first.isDigit = true) (inWord : ∀ character ∈ others, isWordChar character = true)
    (ends : EndsWord behind) (announces : base.Announces (first :: others) body) :
    ReadsNumber base body (first :: others) behind (readToken first (others ++ behind)) := by
  have whole : ∀ character ∈ first :: others, isWordChar character = true :=
    List.forall_mem_cons.mpr ⟨isWordChar_of_isDigit digit, inWord⟩
  have token := readToken_word whole ends
  rw [readWord_number digit] at token
  rw [token]
  constructor
  case granted =>
    intro scanned
    constructor
    · intro read
      rcases applies_or_denotes base body with ⟨defect, applies⟩ | ⟨number, denotes⟩
      · rw [readNumber_of_applies announces applies] at read
        cases read
      · rw [readNumber_of_denotes announces denotes] at read
        exact ⟨number, denotes, (Except.ok.inj read).symm⟩
    · rintro ⟨number, denotes, rfl⟩
      rw [readNumber_of_denotes announces denotes]
      rfl
  case refused =>
    intro defect
    constructor
    · rintro ⟨cause, failed, same⟩
      rcases applies_or_denotes base body with ⟨other, applies⟩ | ⟨number, denotes⟩
      · rw [readNumber_of_applies announces applies] at failed
        obtain rfl : other.cause body = cause := Except.error.inj failed
        rw [NumberDefect.message_cause] at same
        rwa [← NumberDefect.message_injective body same]
      · rw [readNumber_of_denotes announces denotes] at failed
        cases failed
    · intro applies
      rw [readNumber_of_applies announces applies]
      exact ⟨defect.cause body, rfl, defect.message_cause body⟩

/-! ## Writing -/

namespace Base

/-- The digit values of a number, the highest place first; zero has one digit. -/
def digits (base : Base) (number : Nat) : List Nat :=
  if number = 0 then [0] else (Nat.digits base.radix number).reverse

/-- A word writes a number: behind an announcement its digits, with any zeros before them, or
without one its decimal digits alone. -/
inductive Writes : Base → Nat → List Char → Prop where
  | announced {base : Base} {number zeros : Nat} {letter : Char} {body : List Char}
      (member : letter ∈ base.letters)
      (spells : base.Spells body (List.replicate zeros 0 ++ base.digits number)) :
      Writes base number ('0' :: letter :: body)
  | plain {number : Nat} {body : List Char} (spells : decimal.Spells body (decimal.digits number)) :
      Writes decimal number body

variable {base : Base} {number : Nat} {word body : List Char} {values : List Nat}

theorem number_digits (zeros : Nat) :
    base.number (List.replicate zeros 0 ++ base.digits number) = number := by
  rw [Base.number, List.reverse_append, List.reverse_replicate, Nat.ofDigits_append_replicate_zero,
    digits]
  split
  case isTrue isZero => simp [isZero]
  case isFalse => rw [List.reverse_reverse, Nat.ofDigits_digits]

theorem head?_digits (positive : number ≠ 0) : (base.digits number).head? ≠ some 0 := by
  rw [digits, if_neg positive, List.head?_reverse]
  intro isZero
  have nonempty : Nat.digits base.radix number ≠ [] := Nat.digits_ne_nil_iff_ne_zero.mpr positive
  rw [List.getLast?_eq_some_getLast nonempty] at isZero
  exact Nat.getLast_digit_ne_zero base.radix positive (Option.some.inj isZero)

theorem Spells.mem_cases (spells : base.Spells body values) :
    ∀ character ∈ body, character = '_' ∨ ∃ value, base.Digit character value := by
  intro character member
  by_cases isUnderscore : character = '_'
  · exact .inl isUnderscore
  · right
    apply spells.filter_eq.2.digit_of_mem
    exact List.mem_filter.mpr ⟨member, bne_iff_ne.mpr isUnderscore⟩

/-- The first character of a body is the first digit. -/
theorem Spells.head_digit (spells : base.Spells body values) :
    ∃ first others value, body = first :: others ∧ values.head? = some value ∧
      base.Digit first value := by
  obtain ⟨row, underscored, spelled⟩ := spells
  cases spelled with
  | nil => cases underscored
  | cons digit _ =>
    obtain ⟨others, shape⟩ := List.head?_eq_some_iff.mp underscored.head?_eq
    exact ⟨_, others, _, shape, rfl, digit⟩

theorem isDigit_digitChar : ∀ value < 10,
    value.digitChar.isDigit = true ∧ value.digitChar.toUpper.isDigit = true := by
  decide

theorem letters_marks : ∀ base : Base, ∀ letter ∈ base.letters,
    isWordChar letter = true ∧ letter ≠ '_' ∧ isDigitOf 10 letter = false := by
  intro base
  cases base with
  | decimal => exact nofun
  | binary | octal | hexadecimal =>
    simp only [letters, List.mem_cons, List.not_mem_nil, or_false, forall_eq_or_imp, forall_eq]
    decide

/-- Decimal digits announce no other base. -/
theorem announces_of_spells (spells : decimal.Spells body values) :
    decimal.Announces body body := by
  refine .plain ?_
  rintro base letter member rest rfl
  obtain ⟨-, noUnderscore, noDigit⟩ := letters_marks base letter member
  rcases spells.mem_cases letter (by simp) with isUnderscore | isDigit
  · exact noUnderscore isUnderscore
  · have digit : isDigitOf decimal.radix letter = true := isDigitOf_iff.mpr isDigit
    rw [radix, noDigit] at digit
    cases digit

/-- A word that writes a number starts with a digit, goes on in characters of words, and has a body
that spells the number without a leading zero. -/
theorem Writes.shape (writes : base.Writes number word) :
    ∃ first others body values, word = first :: others ∧ first.isDigit = true ∧
      (∀ character ∈ others, isWordChar character = true) ∧ base.Announces word body ∧
      base.Spells body values ∧ ¬base.LeadingZero body values ∧ base.number values = number := by
  have inWord {base : Base} {body : List Char} {values : List Nat}
      (spells : base.Spells body values) : ∀ character ∈ body, isWordChar character = true := by
    intro character member
    rcases spells.mem_cases character member with rfl | ⟨value, digit⟩
    · rfl
    · exact digit.isWordChar
  cases writes with
  | announced member spells =>
    rename_i zeros letter body
    refine ⟨'0', letter :: body, body, _, rfl, rfl, ?_, .letter member, spells, ?_,
      number_digits zeros⟩
    · exact List.forall_mem_cons.mpr ⟨(letters_marks base letter member).1, inWord spells⟩
    · rintro ⟨rfl, -⟩
      cases member
  | plain spells =>
    obtain ⟨first, others, value, rfl, isHead, digit⟩ := spells.head_digit
    refine ⟨first, others, _, _, rfl, ?_, ?_, announces_of_spells spells, spells, ?_,
      number_digits 0⟩
    · obtain rfl | rfl := digit.written
      · exact (isDigit_digitChar value digit.lt).1
      · exact (isDigit_digitChar value digit.lt).2
    · exact (List.forall_mem_cons.mp (inWord spells)).2
    · rintro ⟨-, long, isZero⟩
      obtain rfl := digit.zero_iff.mp (Option.some.inj isZero)
      by_cases zero : number = 0
      · simp [digits, zero] at long
      · exact head?_digits zero isHead

end Base

/-- What becomes of a word that starts with a digit: lexing goes on with what is found there, which
is the number that the word spells in the base it announces, or a fault at its first character. -/
structure NumberRead (before : List Char) (first : Char) (others behind : List Char) : Prop where
  placed : ∃ row, lex before = .ok (.ofInit row ⟨.endOfText, before.length + 1⟩) ∧
    lex (before ++ first :: (others ++ behind)) =
      goesOn row (before.length + 1) (readToken first (others ++ behind))
  announced : ∃ base body, Base.Announces base (first :: others) body
  exact : ∀ base body, Base.Announces base (first :: others) body →
    ReadsNumber base body (first :: others) behind (readToken first (others ++ behind))

/-- Number literals are read exactly, and every writing of a number in range is read as it. The
first part is about words anywhere in a text, the second about the spellings of one number, in every
base and with underscores where they may stand. -/
theorem lex_numbers :
    (∀ before first others behind, NumberWord before first others behind →
      NumberRead before first others behind) ∧
    ∀ (base : Base) (number : Nat) (word : List Char), number < 2 ^ 127 →
      base.Writes number word →
        ∃ bounded : Int128, bounded.toInt = number ∧
          lex word = .ok (.ofInit [⟨.int bounded, 1⟩] ⟨.endOfText, word.length + 1⟩) := by
  constructor
  · rintro before first others behind ⟨leads, digit, inWord, ends⟩
    constructor
    case placed => exact leads.lex_eq (visible_word (isWordChar_of_isDigit digit))
    case announced => exact Base.exists_announces (first :: others)
    case exact => exact fun base body announces => readsNumber digit inWord ends announces
  · intro base number word small writes
    obtain ⟨first, others, body, values, rfl, digit, inWord, announces, spells, noLeadingZero,
      value⟩ := writes.shape
    have denotes : Denotes base body ⟨number, by omega, by omega⟩ :=
      ⟨values, spells, noLeadingZero, value ▸ small, congrArg Nat.cast value.symm⟩
    exact ⟨_, rfl, lex_lexeme (.number digit inWord (readNumber_of_denotes announces denotes))⟩

/-- A hexadecimal number with an underscore, between two symbols. -/
theorem lex_numbers_hexadecimal :
    NumberWord ['-'] '0' ['x', '1', '_', 'F'] ['+', '2'] ∧
      NumberRead ['-'] '0' ['x', '1', '_', 'F'] ['+', '2'] ∧
      31 < 2 ^ 127 ∧ Base.hexadecimal.Writes 31 ['0', 'x', '1', '_', 'F'] ∧
        ∃ bounded : Int128, bounded.toInt = (31 : Nat) ∧
          lex ['0', 'x', '1', '_', 'F'] = .ok (.ofInit [⟨.int bounded, 1⟩] ⟨.endOfText, 6⟩) := by
  have minus : Segmentation ['0', 'x', '1', '_', 'F', '+', '2']
      [⟨[], Symbol.minus.spelling, .symbol .minus⟩] [] := by
    refine .next .nil (.symbol .minus) ?_ (.last .nil)
    rintro next ⟨⟩
    refine ⟨fun longer spelled => ?_, nofun⟩
    cases longer <;> cases spelled
  have word : NumberWord ['-'] '0' ['x', '1', '_', 'F'] ['+', '2'] := by
    refine ⟨⟨_, _, rfl, minus⟩, rfl, List.all_eq_true.mp rfl, ?_⟩
    rintro next ⟨⟩
    rfl
  have writes : Base.hexadecimal.Writes 31 ['0', 'x', '1', '_', 'F'] := by
    have digits : List.replicate 0 0 ++ Base.hexadecimal.digits 31 = [1, 15] := by
      simp [Base.digits, Base.radix]
    refine @Base.Writes.announced .hexadecimal 31 0 _ _ (by decide) ?_
    rw [digits]
    refine ⟨['1', 'F'], .spaced '1' (.single 'F'), ?_⟩
    exact .cons ⟨by decide, by decide⟩ (.cons ⟨by decide, by decide⟩ .nil)
  exact ⟨word, lex_numbers.1 _ _ _ _ word, by decide, writes,
    lex_numbers.2 .hexadecimal 31 _ (by decide) writes⟩

end CompilerFront.Expr
