import CompilerFront.Proofs.Guarded.Scanning
import CompilerFront.Proofs.Literals.Digits
import CompilerFront.Proofs.Segmentation.Places

/-!
Contract: string literals are decoded exactly.

Owns:
- `StringItem`, the ways to write one character of a string, and `StringItems`, rows of these;
- `BadItem`, what can stand where neither an item nor the closing quote does, with its fault;
- `readString_items`, by which decoding goes over a row of items, and `exists_items`, by which every
  text starts with a row that ends at a quote or at something bad;
- `lex_strings`, by which a literal is the characters of its items, or the fault behind them.

Does not own: where tokens start (`CompilerFront.Proofs.Segmentation.Places`).
-/

namespace CompilerFront.Expr

open Guarded.Lexer (shortEscape? readEscape_of_short readEscape_of_unknown)

/-! ## Items -/

/-- How digits are written behind the backslash of an escape: two behind one letter, four behind
another, or one to six in braces. -/
inductive NumericEscape : List Char → List Char → Prop where
  | two {digits : List Char} (length : digits.length = 2) : NumericEscape ('x' :: digits) digits
  | four {digits : List Char} (length : digits.length = 4) : NumericEscape ('u' :: digits) digits
  | braced {digits : List Char} (nonempty : digits ≠ []) (length : digits.length ≤ 6) :
      NumericEscape ('u' :: '\x7b' :: (digits ++ ['\x7d'])) digits

/-- The ways to write one character of a string. -/
inductive StringItem : List Char → Char → Prop where
  | raw {character : Char} (noQuote : character ≠ '"') (noBackslash : character ≠ '\\')
      (noBreak : character ≠ '\n') : StringItem [character] character
  | short {letter character : Char} (known : shortEscape? letter = some character) :
      StringItem ['\\', letter] character
  | numeric {written digits : List Char} {values : List Nat} {character : Char}
      (escape : NumericEscape written digits) (spelled : Base.hexadecimal.Spelled digits values)
      (denotes : Base.hexadecimal.number values = character.toNat) :
      StringItem ('\\' :: written) character

/-- Items in a row, and the characters that they denote. -/
inductive StringItems : List Char → List Char → Prop where
  | nil : StringItems [] []
  | cons {written others : List Char} {character : Char} {characters : List Char}
      (item : StringItem written character) (items : StringItems others characters) :
      StringItems (written ++ others) (character :: characters)

/-- A text starts with an escape in digits, whether they denote a character or not. -/
def StartsNumeric (text : List Char) : Prop :=
  ∃ written digits values rest, text = written ++ rest ∧ NumericEscape written digits ∧
    Base.hexadecimal.Spelled digits values

/-- What a text starts with when it is neither an item nor the closing quote, and the fault that
this is: the literal does not end in its line, or an escape is none. -/
inductive BadItem : List Char → LexicalFault → Prop where
  | textEnds : BadItem [] .unterminatedString
  | lineEnds (rest : List Char) : BadItem ('\n' :: rest) .unterminatedString
  | endsInEscape : BadItem ['\\'] .unterminatedString
  | unknown {letter : Char} (rest : List Char) (noShort : shortEscape? letter = none)
      (noNumeric : letter ≠ 'x' ∧ letter ≠ 'u') :
      BadItem ('\\' :: letter :: rest) (.unknownEscape letter)
  | digits {letter : Char} {rest : List Char} (isNumeric : letter = 'x' ∨ letter = 'u')
      (noBrace : letter = 'u' → rest.head? ≠ some '\x7b')
      (missing : ¬StartsNumeric (letter :: rest)) :
      BadItem ('\\' :: letter :: rest) .malformedHexEscape
  | braces {rest : List Char} (missing : ¬StartsNumeric ('u' :: '\x7b' :: rest)) :
      BadItem ('\\' :: 'u' :: '\x7b' :: rest) .malformedUnicodeEscape
  | noCharacter {written digits : List Char} {values : List Nat} (rest : List Char)
      (escape : NumericEscape written digits) (spelled : Base.hexadecimal.Spelled digits values)
      (denotesNone : ∀ character : Char, Base.hexadecimal.number values ≠ character.toNat) :
      BadItem ('\\' :: (written ++ rest)) (.noSuchCodePoint digits)

/-! ## Numeric escapes -/

section Numeric

variable {digits written text rest : List Char} {values : List Nat}

theorem codePoint_of_denotes {character : Char} (spelled : Base.hexadecimal.Spelled digits values)
    (denotes : Base.hexadecimal.number values = character.toNat) :
    codePoint digits = .ok character :=
  codePoint_of_positional (spelled.positional.trans denotes)

/-- Surrogates and numbers above the last code point are digits without a character. -/
theorem codePoint_of_denotesNone (spelled : Base.hexadecimal.Spelled digits values)
    (denotesNone : ∀ character : Char, Base.hexadecimal.number values ≠ character.toNat) :
    codePoint digits = .error (.noSuchCodePoint digits) := by
  have value : positional 16 digits = Base.hexadecimal.number values := spelled.positional
  have invalid : ¬(Base.hexadecimal.number values).isValidChar := by
    intro valid
    have denotes := Char.toNat_ofNat (Base.hexadecimal.number values)
    rw [if_pos valid] at denotes
    exact denotesNone _ denotes.symm
  rw [codePoint, value, charOfPoint?, dif_neg invalid]

theorem readHexEscape_spelled {count : Nat} (length : digits.length = count)
    (spelled : Base.hexadecimal.Spelled digits values) (rest : List Char) :
    readHexEscape count (digits ++ rest) = (codePoint digits).map (⟨·, count, rest⟩) := by
  have hexadecimal : digits.all (isDigitOf 16) = true := List.all_eq_true.mpr spelled.isDigitOf
  rw [readHexEscape, List.take_left' length, List.drop_left' length, length, hexadecimal,
    beq_self_eq_true]
  rfl

theorem readHexEscape_missing {count : Nat}
    (missing : ∀ digits values rest, text = digits ++ rest → digits.length = count →
      ¬Base.hexadecimal.Spelled digits values) :
    readHexEscape count text = .error .malformedHexEscape := by
  rw [readHexEscape]
  split
  case isTrue found =>
    rw [Bool.and_eq_true, beq_iff_eq, List.all_eq_true] at found
    obtain ⟨values, spelled⟩ : ∃ values, Base.hexadecimal.Spelled (text.take count) values :=
      Base.exists_spelled found.2
    exact absurd spelled
      (missing _ values _ (List.take_append_drop count text).symm found.1)
  case isFalse => rfl

/-- Digits reach up to a brace that closes them. -/
theorem takeWhile_spelled (spelled : Base.hexadecimal.Spelled digits values) (rest : List Char) :
    (digits ++ '\x7d' :: rest).takeWhile (isDigitOf 16) = digits ∧
      (digits ++ '\x7d' :: rest).dropWhile (isDigitOf 16) = '\x7d' :: rest := by
  have hexadecimal : ∀ digit ∈ digits, isDigitOf 16 digit = true := spelled.isDigitOf
  have noDigit : isDigitOf 16 '\x7d' = false := by decide
  rw [List.takeWhile_append_of_pos hexadecimal, List.dropWhile_append_of_pos hexadecimal]
  simp [noDigit]

theorem readBracedEscape_spelled (nonempty : digits ≠ []) (length : digits.length ≤ 6)
    (spelled : Base.hexadecimal.Spelled digits values) (rest : List Char) :
    readBracedEscape (digits ++ '\x7d' :: rest) =
      (codePoint digits).map (⟨·, digits.length + 1, rest⟩) := by
  obtain ⟨taken, left⟩ := takeWhile_spelled spelled rest
  have sensible : (digits.isEmpty || decide (digits.length > 6)) = false := by
    simp [nonempty, length]
  rw [readBracedEscape, taken, left]
  simp only [sensible, Bool.false_eq_true, ↓reduceIte]

/-- An empty pair of braces, a seventh digit, another character and an open brace are not told
apart. -/
theorem readBracedEscape_missing
    (missing : ∀ digits values rest, text = digits ++ '\x7d' :: rest → digits ≠ [] →
      digits.length ≤ 6 → ¬Base.hexadecimal.Spelled digits values) :
    readBracedEscape text = .error .malformedUnicodeEscape := by
  rw [readBracedEscape]
  split
  case h_1 _ rest left =>
    split
    case isTrue => rfl
    case isFalse sensible =>
      have shape : text = text.takeWhile (isDigitOf 16) ++ '\x7d' :: rest := by
        rw [← left, List.takeWhile_append_dropWhile]
      have digits : ∀ digit ∈ text.takeWhile (isDigitOf 16), isDigitOf 16 digit = true :=
        fun _ member => List.mem_takeWhile_imp member
      obtain ⟨values, spelled⟩ : ∃ values, Base.hexadecimal.Spelled _ values :=
        Base.exists_spelled digits
      rw [Bool.or_eq_true, List.isEmpty_iff, decide_eq_true_eq, not_or, Nat.not_lt] at sensible
      exact absurd spelled (missing _ values rest shape sensible.1 sensible.2)
  case h_2 => rfl

end Numeric

/-! ## Escapes -/

section Escapes

variable {written digits text rest : List Char} {values : List Nat}

/-- The digits of an escape decide by themselves what it denotes. -/
theorem readEscape_numeric (escape : NumericEscape written digits)
    (spelled : Base.hexadecimal.Spelled digits values) (rest : List Char) :
    readEscape (written ++ rest) = (codePoint digits).map (⟨·, written.length, rest⟩) := by
  cases escape with
  | two length =>
    rw [List.cons_append, readEscape, readHexEscape_spelled length spelled, List.length_cons,
      length]
    cases codePoint digits <;> rfl
  | four length =>
    have noBrace : ∀ more, digits ++ rest ≠ '\x7b' :: more := by
      intro more shape
      cases spelled with
      | nil => cases length
      | cons digit _ =>
        obtain rfl := (List.cons.inj shape).1
        cases digit.digitValue?
    rw [List.cons_append, readEscape, readHexEscape_spelled length spelled, List.length_cons,
      length]
    · cases codePoint digits <;> rfl
    · exact noBrace
  | braced nonempty length =>
    have shape : 'u' :: '\x7b' :: (digits ++ ['\x7d']) ++ rest =
        'u' :: '\x7b' :: (digits ++ '\x7d' :: rest) := by simp
    rw [shape, readEscape, readBracedEscape_spelled nonempty length spelled]
    simp only [List.length_cons, List.length_append, List.length_nil]
    cases codePoint digits <;> rfl

/-- Where no escape in digits stands, none is read. -/
theorem readEscape_digits {letter : Char} (isNumeric : letter = 'x' ∨ letter = 'u')
    (noBrace : letter = 'u' → rest.head? ≠ some '\x7b')
    (missing : ¬StartsNumeric (letter :: rest)) :
    readEscape (letter :: rest) = .error .malformedHexEscape := by
  obtain rfl | rfl := isNumeric
  · rw [readEscape, readHexEscape_missing]
    · rfl
    · rintro digits values more rfl length spelled
      exact missing ⟨_, digits, values, more, rfl, .two length, spelled⟩
  · rw [readEscape, readHexEscape_missing]
    · rfl
    · rintro digits values more rfl length spelled
      exact missing ⟨_, digits, values, more, rfl, .four length, spelled⟩
    · rintro more rfl
      exact noBrace rfl rfl

theorem readEscape_braces (missing : ¬StartsNumeric ('u' :: '\x7b' :: rest)) :
    readEscape ('u' :: '\x7b' :: rest) = .error .malformedUnicodeEscape := by
  rw [readEscape, readBracedEscape_missing]
  · rfl
  · rintro digits values more rfl nonempty length spelled
    exact missing ⟨_, digits, values, more, by simp, .braced nonempty length, spelled⟩

theorem readEscape_item {character : Char} (item : StringItem ('\\' :: written) character)
    (rest : List Char) : readEscape (written ++ rest) = .ok ⟨character, written.length, rest⟩ := by
  cases item with
  | raw _ noBackslash => exact absurd rfl noBackslash
  | short known => exact readEscape_of_short known rest
  | numeric escape spelled denotes =>
    rw [readEscape_numeric escape spelled, codePoint_of_denotes spelled denotes]
    rfl

theorem readEscape_badItem {cause : LexicalFault} (bad : BadItem ('\\' :: text) cause) :
    readEscape text = .error cause := by
  cases bad with
  | endsInEscape => rfl
  | unknown rest noShort noNumeric =>
    exact readEscape_of_unknown noShort noNumeric.1 noNumeric.2 rest
  | digits isNumeric noBrace missing => exact readEscape_digits isNumeric noBrace missing
  | braces missing => exact readEscape_braces missing
  | noCharacter rest escape spelled denotesNone =>
    rw [readEscape_numeric escape spelled, codePoint_of_denotesNone spelled denotesNone]
    rfl

/-- Behind a backslash stands the rest of an item, or the two are something bad. -/
theorem escape_cases_text (text : List Char) :
    (∃ written character rest, text = written ++ rest ∧
      StringItem ('\\' :: written) character) ∨ ∃ cause, BadItem ('\\' :: text) cause := by
  by_cases numeric : StartsNumeric text
  · obtain ⟨written, digits, values, rest, rfl, escape, spelled⟩ := numeric
    by_cases denotes : ∃ character : Char, Base.hexadecimal.number values = character.toNat
    · obtain ⟨character, denotes⟩ := denotes
      exact .inl ⟨written, character, rest, rfl, .numeric escape spelled denotes⟩
    · exact .inr ⟨_, .noCharacter rest escape spelled (not_exists.mp denotes)⟩
  cases text with
  | nil => exact .inr ⟨_, .endsInEscape⟩
  | cons letter rest =>
    by_cases isNumeric : letter = 'x' ∨ letter = 'u'
    · by_cases brace : letter = 'u' ∧ rest.head? = some '\x7b'
      · obtain ⟨rfl, isBrace⟩ := brace
        obtain ⟨more, rfl⟩ := List.head?_eq_some_iff.mp isBrace
        exact .inr ⟨_, .braces numeric⟩
      · exact .inr ⟨_, .digits isNumeric (not_and.mp brace) numeric⟩
    · cases short : shortEscape? letter with
      | some character => exact .inl ⟨[letter], character, rest, rfl, .short short⟩
      | none => exact .inr ⟨_, .unknown rest short (not_or.mp isNumeric)⟩

end Escapes

/-! ## Decoding -/

section Decoding

variable {written text rest decoded : List Char} {characters : List Char} {width : Nat}

theorem readString_item {character : Char} (item : StringItem written character)
    (decoded : List Char) (width : Nat) (rest : List Char) :
    readString decoded width (written ++ rest) =
      readString (character :: decoded) (width + written.length) rest := by
  have escaped {tail : List Char} (item : StringItem ('\\' :: tail) character) :
      readString decoded width ('\\' :: tail ++ rest) =
        readString (character :: decoded) (width + ('\\' :: tail).length) rest := by
    rw [List.cons_append, readString, readEscape_item item]
    rfl
  cases item with
  | raw noQuote noBackslash noBreak =>
    rw [List.singleton_append, readString.eq_5 _ _ _ _ noQuote noBreak noBackslash]
    rfl
  | short known => exact escaped (.short known)
  | numeric escape spelled denotes => exact escaped (.numeric escape spelled denotes)

/-- Decoding goes over a row of items and has their characters behind it. -/
theorem readString_items (items : StringItems written characters) (decoded : List Char)
    (width : Nat) (rest : List Char) :
    readString decoded width (written ++ rest) =
      readString (characters.reverse ++ decoded) (width + written.length) rest := by
  induction items generalizing decoded width with
  | nil => rfl
  | cons item _ inductionHypothesis =>
    rw [List.append_assoc, readString_item item, inductionHypothesis, List.length_append,
      List.reverse_cons, List.append_assoc, List.singleton_append, Nat.add_assoc]

theorem readString_badItem {cause : LexicalFault} (bad : BadItem text cause) (decoded : List Char)
    (width : Nat) : readString decoded width text = .error cause := by
  have escaped {tail : List Char} (bad : BadItem ('\\' :: tail) cause) :
      readString decoded width ('\\' :: tail) = .error cause := by
    rw [readString, readEscape_badItem bad]
  cases bad with
  | textEnds => rw [readString]
  | lineEnds rest => rw [readString]
  | endsInEscape => exact escaped .endsInEscape
  | unknown rest noShort noNumeric => exact escaped (.unknown rest noShort noNumeric)
  | digits isNumeric noBrace missing => exact escaped (.digits isNumeric noBrace missing)
  | braces missing => exact escaped (.braces missing)
  | noCharacter rest escape spelled denotesNone =>
    exact escaped (.noCharacter rest escape spelled denotesNone)

/-- What a text starts with: a quote, an item, or something bad. -/
theorem start_cases (text : List Char) :
    (∃ rest, text = '"' :: rest) ∨
      (∃ written character rest, text = written ++ rest ∧ written ≠ [] ∧
        StringItem written character) ∨ ∃ cause, BadItem text cause := by
  cases text with
  | nil => exact .inr (.inr ⟨_, .textEnds⟩)
  | cons first rest =>
    by_cases isQuote : first = '"'
    · exact .inl ⟨rest, by rw [isQuote]⟩
    by_cases isBreak : first = '\n'
    · subst isBreak
      exact .inr (.inr ⟨_, .lineEnds rest⟩)
    by_cases isBackslash : first = '\\'
    · subst isBackslash
      rcases escape_cases_text rest with ⟨written, character, more, rfl, item⟩ | bad
      · exact .inr (.inl ⟨'\\' :: written, character, more, rfl, List.cons_ne_nil _ _, item⟩)
      · exact .inr (.inr bad)
    · exact .inr (.inl ⟨[first], first, rest, rfl, List.cons_ne_nil _ _,
        .raw isQuote isBackslash isBreak⟩)

/-- Every text starts with a row of items, behind which stands a quote or something bad. -/
theorem exists_items (text : List Char) :
    ∃ written characters behind, text = written ++ behind ∧ StringItems written characters ∧
      ((∃ rest, behind = '"' :: rest) ∨ ∃ cause, BadItem behind cause) := by
  induction length : text.length using Nat.strongRecOn generalizing text with
  | ind size inductionHypothesis =>
    rcases start_cases text with closed | ⟨item, character, rest, rfl, nonempty, isItem⟩ | bad
    · exact ⟨[], [], text, rfl, .nil, .inl closed⟩
    · have shorter : rest.length < size := by
        have positive := List.length_pos_iff.mpr nonempty
        rw [← length, List.length_append]
        omega
      obtain ⟨written, characters, behind, rfl, items, stops⟩ :=
        inductionHypothesis rest.length shorter rest rfl
      exact ⟨item ++ written, character :: characters, behind, by rw [List.append_assoc],
        .cons isItem items, stops⟩
    · exact ⟨[], [], text, rfl, .nil, .inr bad⟩

end Decoding

/-! ## Literals in a text -/

section Literals

variable {before body written rest behind characters : List Char} {cause : LexicalFault}

theorem readToken_quote (body : List Char) :
    readToken '"' body = (readString [] 1 body).map fun scanned =>
      ⟨.string scanned.value, scanned.width, scanned.rest⟩ := by
  rw [readToken, if_neg (by decide), if_pos rfl]

theorem readToken_items (items : StringItems written characters) (rest : List Char) :
    readToken '"' (written ++ '"' :: rest) =
      .ok ⟨.string (String.ofList characters), written.length + 2, rest⟩ := by
  rw [readToken_quote, readString_items items, readString, List.append_nil, List.reverse_reverse,
    Nat.add_comm 1]
  rfl

theorem readToken_badItem (items : StringItems written characters) (bad : BadItem behind cause) :
    readToken '"' (written ++ behind) = .error cause := by
  rw [readToken_quote, readString_items items, readString_badItem bad]
  rfl

/-- A string literal is accepted just where it splits into items up to its first free quote. -/
theorem readToken_quote_eq_ok_iff {scanned : Scanned TokenKind} :
    readToken '"' body = .ok scanned ↔
      ∃ written characters rest, body = written ++ '"' :: rest ∧ StringItems written characters ∧
        scanned = ⟨.string (String.ofList characters), written.length + 2, rest⟩ := by
  constructor
  · intro read
    obtain ⟨written, characters, behind, rfl, items, ⟨rest, rfl⟩ | ⟨cause, bad⟩⟩ :=
      exists_items body
    · rw [readToken_items items] at read
      exact ⟨written, characters, rest, rfl, items, (Except.ok.inj read).symm⟩
    · rw [readToken_badItem items bad] at read
      cases read
  · rintro ⟨written, characters, rest, rfl, items, rfl⟩
    exact readToken_items items rest

theorem readToken_quote_eq_error_iff :
    readToken '"' body = .error cause ↔
      ∃ written characters behind, body = written ++ behind ∧ StringItems written characters ∧
        BadItem behind cause := by
  constructor
  · intro failed
    obtain ⟨written, characters, behind, rfl, items, ⟨rest, rfl⟩ | ⟨found, bad⟩⟩ :=
      exists_items body
    · rw [readToken_items items] at failed
      cases failed
    · rw [readToken_badItem items bad] at failed
      obtain rfl := Except.error.inj failed
      exact ⟨written, characters, behind, rfl, items, bad⟩
  · rintro ⟨written, characters, behind, rfl, items, bad⟩
    exact readToken_badItem items bad

/-- What becomes of a quote: lexing goes on behind the quote that ends a row of items, with the text
that the items denote, or it ends at the opening quote with the fault of what is no item. -/
structure StringRead (before body : List Char) : Prop where
  placed : ∃ row, lex before = .ok (.ofInit row ⟨.endOfText, before.length + 1⟩) ∧
    lex (before ++ '"' :: body) = goesOn row (before.length + 1) (readToken '"' body)
  granted : ∀ scanned, readToken '"' body = .ok scanned ↔
    ∃ written characters rest, body = written ++ '"' :: rest ∧ StringItems written characters ∧
      scanned = ⟨.string (String.ofList characters), written.length + 2, rest⟩
  refused : ∀ cause, readToken '"' body = .error cause ↔
    ∃ written characters behind, body = written ++ behind ∧ StringItems written characters ∧
      BadItem behind cause

/-- Between quotes, the characters are a literal of a text, and there is nothing else. -/
def Quotes (written : List Char) (text : String) : Prop :=
  lex ('"' :: (written ++ ['"'])) =
    .ok (.ofInit [⟨.string text, 1⟩] ⟨.endOfText, written.length + 3⟩)

theorem visible_quote (body : List Char) : Visible ('"' :: body) := by
  rintro first others ⟨⟩
  exact ⟨by decide, fun isSlash => absurd isSlash (by decide)⟩

theorem quotes_items (items : StringItems written characters) :
    Quotes written (String.ofList characters) := by
  obtain ⟨row, alone, lexed⟩ := (leads_nil ('"' :: (written ++ ['"']))).lex_eq (visible_quote _)
  have noRow : row = [] := by
    have none := congrArg TokenStream.toList (Except.ok.inj (lexFrom_nil.symm.trans alone))
    rw [TokenStream.toList_ofInit, TokenStream.toList_ofInit] at none
    simpa using none
  rw [List.nil_append, readToken_items items, noRow, goesOn, lexFrom_nil] at lexed
  rw [Quotes, lexed, List.length_nil, Nat.add_comm (0 + 1)]
  rfl

theorem Quotes.eq_of_items {text : String} (quotes : Quotes written text)
    (items : StringItems written characters) : text = String.ofList characters := by
  have tokens := congrArg TokenStream.toList
    (Except.ok.inj (quotes.symm.trans (quotes_items items)))
  simpa using tokens

theorem StringItems.append {others more : List Char} (items : StringItems written characters)
    (rest : StringItems others more) : StringItems (written ++ others) (characters ++ more) := by
  induction items with
  | nil => exact rest
  | cons item _ inductionHypothesis =>
    rw [List.append_assoc, List.cons_append]
    exact .cons item inductionHypothesis

end Literals

/-- String literals are decoded exactly, and rows of items one behind the other denote the texts of
both. A literal is refused for the first item that is none, or for the quote that it lacks, and at
its opening in either case. -/
theorem lex_strings :
    (∀ before body, Leads before ('"' :: body) → StringRead before body) ∧
    ∀ left right leftText rightText, (∃ characters, StringItems left characters) →
      (∃ characters, StringItems right characters) → Quotes left leftText →
        Quotes right rightText → Quotes (left ++ right) (leftText ++ rightText) := by
  constructor
  · intro before body leads
    constructor
    case placed => exact leads.lex_eq (visible_quote body)
    case granted => exact fun _ => readToken_quote_eq_ok_iff
    case refused => exact fun _ => readToken_quote_eq_error_iff
  · rintro left right leftText rightText ⟨leftCharacters, leftItems⟩ ⟨rightCharacters, rightItems⟩
      leftQuotes rightQuotes
    rw [leftQuotes.eq_of_items leftItems, rightQuotes.eq_of_items rightItems,
      ← String.ofList_append]
    exact quotes_items (leftItems.append rightItems)

/-- An escaped letter in front of a sum, and two rows of items with an escaped quote between. -/
theorem lex_strings_escaped :
    Leads [] ['"', '\\', 'x', '4', '1', '"', '+'] ∧
      StringRead [] ['\\', 'x', '4', '1', '"', '+'] ∧
        StringItems ['a', '\\', '"'] ['a', '"'] ∧ StringItems ['b'] ['b'] ∧
          Quotes ['a', '\\', '"'] "a\"" ∧ Quotes ['b'] "b" ∧
            Quotes ['a', '\\', '"', 'b'] ("a\"" ++ "b") := by
  have leads : Leads [] ['"', '\\', 'x', '4', '1', '"', '+'] := leads_nil _
  have left : StringItems ['a', '\\', '"'] ['a', '"'] := by
    show StringItems (['a'] ++ (['\\', '"'] ++ [])) ['a', '"']
    exact .cons (.raw (by decide) (by decide) (by decide)) (.cons (.short rfl) .nil)
  have right : StringItems ['b'] ['b'] := by
    show StringItems (['b'] ++ []) ['b']
    exact .cons (.raw (by decide) (by decide) (by decide)) .nil
  exact ⟨leads, lex_strings.1 _ _ leads, left, right, quotes_items left, quotes_items right,
    lex_strings.2 _ _ _ _ ⟨_, left⟩ ⟨_, right⟩ (quotes_items left) (quotes_items right)⟩

end CompilerFront.Expr
