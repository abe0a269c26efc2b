import CompilerFront.Proofs.Printing.Literals
import CompilerFront.Proofs.Segmentation.Gap
import CompilerFront.Proofs.Segmentation.Literal

/-!
Contract: the characters of tokens.

Owns:
- `Lexeme`, the characters that are one token of a kind;
- `Separate`, by which a token of a kind ends in front of a text: no longer one starts with it;
- `readToken_lexeme` and `lexeme_of_readToken`, by which the lexer reads lexemes that are separate
  from what follows them, each as its kind, and nothing else.
-/

namespace CompilerFront.Expr

/-! ## Symbols -/

namespace Symbol

theorem ofPair?_eq_some_iff {first second : Char} {symbol : Symbol} :
    ofPair? first second = some symbol ↔ symbol.spelling = [first, second] := by
  constructor
  · intro found
    unfold ofPair? at found
    split at found <;> cases found <;> rfl
  · intro spelled
    cases symbol <;> cases spelled <;> rfl

theorem ofChar?_eq_some_iff {character : Char} {symbol : Symbol} :
    ofChar? character = some symbol ↔ symbol.spelling = [character] := by
  constructor
  · intro found
    unfold ofChar? at found
    split at found <;> cases found <;> rfl
  · intro spelled
    cases symbol <;> cases spelled <;> rfl

/-- A symbol is one character, or two of which the pair is looked up first. -/
theorem spelling_cases (symbol : Symbol) :
    (∃ only, symbol.spelling = [only]) ∨ ∃ first second, symbol.spelling = [first, second] := by
  cases symbol
  all_goals first
    | exact .inl ⟨_, rfl⟩
    | exact .inr ⟨_, _, rfl⟩

/-- A symbol ends before a character: with it, it would neither be another symbol nor open a
comment. -/
def EndsBefore (symbol : Symbol) (next : Char) : Prop :=
  (∀ longer : Symbol, longer.spelling ≠ symbol.spelling ++ [next]) ∧
    (symbol = .slash → next ≠ '/' ∧ next ≠ '*')

end Symbol

/-! ## Lexemes -/

/-- The characters that are one token of a kind. What may stand behind them is said apart from it,
by `Separate`. -/
inductive Lexeme : List Char → TokenKind → Prop where
  | number {first : Char} {others : List Char} {number : Int128} (digit : first.isDigit = true)
      (inWord : ∀ character ∈ others, isWordChar character = true)
      (value : readNumber (first :: others) = .ok number) : Lexeme (first :: others) (.int number)
  | keyword {word : List Char} {kind : TokenKind} (isKeyword : keyword? word = some kind) :
      Lexeme word kind
  | string {body : List Char} {text : String}
      (closed : readString [] 1 body = .ok ⟨text, body.length + 1, []⟩) :
      Lexeme ('"' :: body) (.string text)
  | symbol (symbol : Symbol) : Lexeme symbol.spelling (.symbol symbol)

/-- A token of a kind ends where a text begins: a word is followed by no character of words, and a
symbol ends before the next character. -/
def Separate (kind : TokenKind) (rest : List Char) : Prop :=
  match kind with
  | .int _ | .bool _ | .null => EndsWord rest
  | .symbol symbol => ∀ next ∈ rest.head?, symbol.EndsBefore next
  | .string _ | .endOfText => True

/-- Less text behind a token cannot run into it. -/
theorem Separate.cut {kind : TokenKind} {rest more : List Char}
    (separate : Separate kind (rest ++ more)) : Separate kind rest := by
  cases kind with
  | int _ | bool _ | null | symbol _ =>
    intro next member
    exact separate next (mem_head?_append more member)
  | string _ | endOfText => trivial

theorem separate_nil (kind : TokenKind) : Separate kind [] := by
  cases kind with
  | int _ | bool _ | null | symbol _ => exact fun _ member => nomatch member
  | string _ | endOfText => trivial

theorem keyword?_eq_some {word : List Char} {kind : TokenKind}
    (isKeyword : keyword? word = some kind) :
    (word = ['t', 'r', 'u', 'e'] ∧ kind = .bool true) ∨
      (word = ['f', 'a', 'l', 's', 'e'] ∧ kind = .bool false) ∨
        (word = ['n', 'u', 'l', 'l'] ∧ kind = .null) := by
  unfold keyword? at isKeyword
  split at isKeyword
  · rename_i isTrue
    cases isKeyword
    exact .inl ⟨isTrue, rfl⟩
  split at isKeyword
  · rename_i isFalse
    cases isKeyword
    exact .inr (.inl ⟨isFalse, rfl⟩)
  split at isKeyword
  · rename_i isNull
    cases isKeyword
    exact .inr (.inr ⟨isNull, rfl⟩)
  · cases isKeyword

/-- A keyword is a word that starts with no digit. -/
theorem inWord_of_keyword? {word : List Char} {kind : TokenKind}
    (isKeyword : keyword? word = some kind) :
    ∃ first others, word = first :: others ∧ first.isDigit = false ∧
      ∀ character ∈ word, isWordChar character = true := by
  rcases keyword?_eq_some isKeyword with ⟨rfl, -⟩ | ⟨rfl, -⟩ | ⟨rfl, -⟩
  · exact ⟨'t', ['r', 'u', 'e'], rfl, rfl, List.all_eq_true.mp rfl⟩
  · exact ⟨'f', ['a', 'l', 's', 'e'], rfl, rfl, List.all_eq_true.mp rfl⟩
  · exact ⟨'n', ['u', 'l', 'l'], rfl, rfl, List.all_eq_true.mp rfl⟩

theorem separate_of_keyword? {word : List Char} {kind : TokenKind} {rest : List Char}
    (isKeyword : keyword? word = some kind) : Separate kind rest ↔ EndsWord rest := by
  rcases keyword?_eq_some isKeyword with ⟨-, rfl⟩ | ⟨-, rfl⟩ | ⟨-, rfl⟩ <;> rfl

/-! ## Reading -/

theorem isWordChar_of_isDigit {character : Char} (digit : character.isDigit = true) :
    isWordChar character = true := by
  rw [isWordChar, Char.isAlphanum, digit, Bool.or_true, Bool.true_or]

theorem readWord_number {first : Char} {others : List Char} (digit : first.isDigit = true) :
    readWord (first :: others) = (readNumber (first :: others)).map .int := by
  rw [readWord, List.head?_cons, Option.map_some, Option.getD_some, if_pos digit]

theorem readWord_keyword {first : Char} {others : List Char} (noDigit : first.isDigit = false) :
    readWord (first :: others) =
      match keyword? (first :: others) with
      | some kind => .ok kind
      | none => .error (.identifier (first :: others)) := by
  rw [readWord, List.head?_cons, Option.map_some, Option.getD_some]
  exact if_neg (Bool.eq_false_iff.mp noDigit)

theorem visible_word {first : Char} {others : List Char} (inWord : isWordChar first = true) :
    Visible (first :: others) := by
  obtain ⟨noSlash, notBlank⟩ := visible_of_isWordChar inWord
  rintro first others ⟨⟩
  exact ⟨notBlank, fun isSlash => absurd isSlash noSlash⟩

theorem endsWord_dropWhile (text : List Char) : EndsWord (text.dropWhile isWordChar) := by
  intro next member
  have stops := List.head?_dropWhile_not isWordChar text
  rw [Option.mem_def.mp member] at stops
  exact stops

/-- The first character of a symbol belongs to no other lexeme and to no gap. -/
theorem Symbol.first_of_spelling {symbol : Symbol} {first : Char} {others : List Char}
    (spelled : symbol.spelling = first :: others) :
    isWordChar first = false ∧ first ≠ '"' ∧ Text.isBlank first = false ∧
      (first = '/' → symbol = .slash ∧ others = []) := by
  cases symbol <;> cases spelled <;> decide

theorem readSymbol_pair {first second : Char} {symbol : Symbol} (rest : List Char)
    (spelled : symbol.spelling = [first, second]) :
    readSymbol first (second :: rest) = .ok ⟨.symbol symbol, 2, rest⟩ := by
  simp only [readSymbol, Symbol.ofPair?_eq_some_iff.mpr spelled]

theorem readSymbol_single {first : Char} {rest : List Char}
    (noPair : ∀ next ∈ rest.head?, Symbol.ofPair? first next = none) :
    readSymbol first rest =
      match Symbol.ofChar? first with
      | some symbol => .ok ⟨.symbol symbol, 1, rest⟩
      | none => .error (.unexpectedCharacter first) := by
  cases rest with
  | nil => rfl
  | cons next others =>
    rw [readSymbol, noPair next rfl]
    rfl

/-- The longest spelling wins: the next character must not make a longer symbol of this one. -/
theorem readSymbol_spelling {symbol : Symbol} {first : Char} {others rest : List Char}
    (spelled : symbol.spelling = first :: others)
    (separate : ∀ next ∈ rest.head?, symbol.EndsBefore next) :
    readSymbol first (others ++ rest) =
      .ok ⟨.symbol symbol, symbol.spelling.length, rest⟩ := by
  rcases symbol.spelling_cases with ⟨only, shape⟩ | ⟨left, right, shape⟩
  · cases shape.symm.trans spelled
    have found : Symbol.ofChar? first = some symbol := Symbol.ofChar?_eq_some_iff.mpr shape
    rw [List.nil_append, readSymbol_single, found, shape]
    · rfl
    · intro next member
      rw [Option.eq_none_iff_forall_ne_some]
      intro longer pair
      apply (separate next member).1 longer
      rw [shape]
      exact Symbol.ofPair?_eq_some_iff.mp pair
  · cases shape.symm.trans spelled
    rw [List.singleton_append, readSymbol_pair rest shape, shape]
    rfl

/-- What is read as a symbol is its spelling, and no symbol of one character more was there. -/
theorem spelling_of_readSymbol {first : Char} {rest : List Char} {scanned : Scanned TokenKind}
    (visible : Visible (first :: rest)) (read : readSymbol first rest = .ok scanned) :
    ∃ symbol : Symbol, scanned.value = .symbol symbol ∧
      first :: rest = symbol.spelling ++ scanned.rest ∧
        ∀ next ∈ scanned.rest.head?, symbol.EndsBefore next := by
  by_cases pair : ∃ second others symbol, rest = second :: others ∧
      Symbol.ofPair? first second = some symbol
  · obtain ⟨second, others, symbol, rfl, found⟩ := pair
    have spelled := Symbol.ofPair?_eq_some_iff.mp found
    cases (readSymbol_pair others spelled).symm.trans read
    refine ⟨symbol, rfl, by rw [spelled]; rfl, fun next _ => ⟨fun longer long => ?_, ?_⟩⟩
    · rw [spelled] at long
      rcases longer.spelling_cases with ⟨only, shape⟩ | ⟨left, right, shape⟩
      · cases shape.symm.trans long
      · cases shape.symm.trans long
    · rintro rfl
      cases spelled
  · have noPair : ∀ next ∈ rest.head?, Symbol.ofPair? first next = none := by
      intro next member
      obtain ⟨others, rfl⟩ := List.head?_eq_some_iff.mp member
      rw [Option.eq_none_iff_forall_ne_some]
      exact fun symbol found => pair ⟨next, others, symbol, rfl, found⟩
    rw [readSymbol_single noPair] at read
    split at read
    · rename_i symbol found
      have spelled := Symbol.ofChar?_eq_some_iff.mp found
      cases read
      refine ⟨symbol, rfl, by rw [spelled]; rfl, fun next member => ⟨fun longer long => ?_, ?_⟩⟩
      · rw [spelled] at long
        have found := Symbol.ofPair?_eq_some_iff.mpr long
        rw [noPair next member] at found
        cases found
      · rintro rfl
        cases spelled
        exact (visible '/' rest rfl).2 rfl next member
    · cases read

/-- A lexeme that is separate from what follows it is read as its kind, and no further. -/
theorem readToken_lexeme {lexeme rest : List Char} {kind : TokenKind}
    (isLexeme : Lexeme lexeme kind) (separate : Separate kind rest) :
    ∃ first others, lexeme = first :: others ∧ Visible (lexeme ++ rest) ∧
      readToken first (others ++ rest) = .ok ⟨kind, lexeme.length, rest⟩ := by
  cases isLexeme with
  | @number first others number digit inWord value =>
    have firstInWord := isWordChar_of_isDigit digit
    have allInWord : ∀ character ∈ first :: others, isWordChar character = true :=
      List.forall_mem_cons.mpr ⟨firstInWord, inWord⟩
    refine ⟨first, others, rfl, visible_word firstInWord, ?_⟩
    rw [readToken_word allInWord separate, readWord_number digit, value]
    rfl
  | keyword isKeyword =>
    obtain ⟨first, others, rfl, noDigit, inWord⟩ := inWord_of_keyword? isKeyword
    refine ⟨first, others, rfl, visible_word (inWord first List.mem_cons_self), ?_⟩
    rw [readToken_word inWord ((separate_of_keyword? isKeyword).mp separate),
      readWord_keyword noDigit, isKeyword]
    rfl
  | @string body text closed =>
    obtain ⟨taken, taken_eq, reads⟩ := takes_of_readString closed
    rw [List.append_nil] at taken_eq
    subst taken_eq
    refine ⟨'"', body, rfl, ?_, ?_⟩
    · rintro first others ⟨⟩
      exact ⟨by decide, fun isSlash => absurd isSlash (by decide)⟩
    · rw [readToken, if_neg (by decide), if_pos rfl, reads rest, List.length_cons, Nat.add_comm 1]
      rfl
  | symbol symbol =>
    obtain ⟨first, others, spelled⟩ : ∃ first others, symbol.spelling = first :: others := by
      rcases symbol.spelling_cases with ⟨only, shape⟩ | ⟨left, right, shape⟩
      · exact ⟨only, [], shape⟩
      · exact ⟨left, [right], shape⟩
    obtain ⟨notInWord, noQuote, notBlank, slash⟩ := Symbol.first_of_spelling spelled
    refine ⟨first, others, spelled, ?_, ?_⟩
    · rw [spelled]
      rintro first others ⟨⟩
      refine ⟨notBlank, fun isSlash second member => ?_⟩
      obtain ⟨isSlashSymbol, rfl⟩ := slash isSlash
      exact (separate second member).2 isSlashSymbol
    · rw [readToken, if_neg (Bool.eq_false_iff.mp notInWord), if_neg noQuote,
        readSymbol_spelling spelled separate]

/-- What is read at the head of a text is a lexeme that is separate from what follows it. -/
theorem lexeme_of_readToken {first : Char} {rest : List Char} {scanned : Scanned TokenKind}
    (visible : Visible (first :: rest)) (read : readToken first rest = .ok scanned) :
    ∃ lexeme, first :: rest = lexeme ++ scanned.rest ∧ Lexeme lexeme scanned.value ∧
      Separate scanned.value scanned.rest := by
  unfold readToken at read
  split at read
  · rename_i firstInWord
    obtain ⟨kind, word, rfl⟩ := map_eq_ok_iff.mp read
    refine ⟨first :: rest.takeWhile isWordChar, ?_, ?_⟩
    · rw [List.cons_append, List.takeWhile_append_dropWhile]
    cases digit : first.isDigit with
    | true =>
      rw [readWord_number digit] at word
      obtain ⟨number, value, rfl⟩ := map_eq_ok_iff.mp word
      exact ⟨.number digit (fun _ member => List.mem_takeWhile_imp member) value,
        endsWord_dropWhile rest⟩
    | false =>
      rw [readWord_keyword digit] at word
      split at word
      · rename_i isKeyword
        cases word
        exact ⟨.keyword isKeyword,
          (separate_of_keyword? isKeyword).mpr (endsWord_dropWhile rest)⟩
      · cases word
  split at read
  · rename_i isQuote
    subst isQuote
    obtain ⟨inner, innerRead, rfl⟩ := map_eq_ok_iff.mp read
    obtain ⟨taken, rfl, reads⟩ := takes_of_readString innerRead
    refine ⟨'"' :: taken, rfl, .string ?_, trivial⟩
    have alone := reads []
    rw [List.append_nil, Nat.add_comm 1] at alone
    exact alone
  · obtain ⟨symbol, symbol_eq, split_eq, separate⟩ := spelling_of_readSymbol visible read
    rw [symbol_eq]
    exact ⟨symbol.spelling, split_eq, .symbol symbol, separate⟩

end CompilerFront.Expr
