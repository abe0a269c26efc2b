import CompilerFront.Expr.Literal
import CompilerFront.Expr.Token
import CompilerFront.Text.Blank

/-!
Contract: cutting the text of a constant expression into tokens.

Owns:
- gaps: blanks, line comments up to the end of the line, block comments up to the first close;
- `readToken`, the longest token at the head of a text;
- `lex`, all tokens of a text with their columns, the end of the text being the last one.

Does not own: the content of literals (`CompilerFront.Expr.Literal`).
-/

namespace CompilerFront.Expr

/-! ## Gaps -/

/-- Where a reader stands inside a gap; a block comment remembers the column it started at. -/
inductive GapState where
  | between
  | lineComment
  | blockComment (start : Nat)
deriving DecidableEq, Repr

/-- The column and the text behind the gap at the head of a text. -/
def skipGap (state : GapState) (column : Nat) (text : List Char) :
    Except (Located LexicalFault) (Nat × List Char) :=
  match state, text with
  | .between, '/' :: '/' :: rest => skipGap .lineComment (column + 2) rest
  | .between, '/' :: '*' :: rest => skipGap (.blockComment column) (column + 2) rest
  | .between, first :: rest =>
    if Text.isBlank first then skipGap .between (column + 1) rest
    else .ok (column, first :: rest)
  | .between, [] => .ok (column, [])
  | .lineComment, '\n' :: rest => skipGap .between (column + 1) rest
  | .lineComment, _ :: rest => skipGap .lineComment (column + 1) rest
  | .lineComment, [] => .ok (column, [])
  | .blockComment _, '*' :: '/' :: rest => skipGap .between (column + 2) rest
  | .blockComment start, _ :: rest => skipGap (.blockComment start) (column + 1) rest
  | .blockComment start, [] => .error ⟨start, .unterminatedComment⟩

/-- What follows a gap is no longer than the text it was skipped from. -/
theorem length_skipGap {state : GapState} {column : Nat} {text : List Char}
    {after : Nat × List Char} (skipped : skipGap state column text = .ok after) :
    after.2.length ≤ text.length := by
  fun_induction skipGap state column text with
  | case1 _ _ ih | case2 _ _ ih | case3 _ _ _ _ _ _ ih | case6 _ _ ih | case7 _ _ _ _ ih
  | case9 _ _ _ ih | case10 _ _ _ _ _ ih =>
    have := ih skipped
    simp only [List.length_cons]
    omega
  | case4 | case5 | case8 =>
    cases skipped
    exact Nat.le_refl _
  | case11 => cases skipped

/-! ## Tokens -/

/-- The characters of words: ASCII letters, digits and the underscore. -/
def isWordChar (character : Char) : Bool :=
  character.isAlphanum || character == '_'

def keyword? (word : List Char) : Option TokenKind :=
  if word = ['t', 'r', 'u', 'e'] then some (.bool true)
  else if word = ['f', 'a', 'l', 's', 'e'] then some (.bool false)
  else if word = ['n', 'u', 'l', 'l'] then some .null
  else none

/-- The token that a word is: a number when it starts with a digit, else a keyword. -/
def readWord (word : List Char) : Except LexicalFault TokenKind :=
  if (word.head?.map Char.isDigit).getD false then
    (readNumber word).map .int
  else
    match keyword? word with
    | some kind => .ok kind
    | none => .error (.identifier word)

/-- The symbol at the head of a text; one of two characters is preferred. -/
def readSymbol (first : Char) (rest : List Char) : Except LexicalFault (Scanned TokenKind) :=
  match rest with
  | second :: others =>
    match Symbol.ofPair? first second with
    | some symbol => .ok ⟨.symbol symbol, 2, others⟩
    | none => single first rest
  | [] => single first rest
where
  single (first : Char) (rest : List Char) : Except LexicalFault (Scanned TokenKind) :=
    match Symbol.ofChar? first with
    | some symbol => .ok ⟨.symbol symbol, 1, rest⟩
    | none => .error (.unexpectedCharacter first)

/-- The longest token at the head of a text that starts with `first`. -/
def readToken (first : Char) (rest : List Char) : Except LexicalFault (Scanned TokenKind) :=
  if isWordChar first then
    (readWord (first :: rest.takeWhile isWordChar)).map fun kind =>
      ⟨kind, (rest.takeWhile isWordChar).length + 1, rest.dropWhile isWordChar⟩
  else if first = '"' then
    (readString [] 1 rest).map fun scanned => ⟨.string scanned.value, scanned.width, scanned.rest⟩
  else
    readSymbol first rest

/-- What follows the characters of a string is no longer than the text they were read from. -/
theorem length_rest_readString {decoded : List Char} {width : Nat} {text : List Char}
    {scanned : Scanned String} (read : readString decoded width text = .ok scanned) :
    scanned.rest.length ≤ text.length := by
  fun_induction readString decoded width text with
  | case1 => cases read
  | case2 =>
    cases read
    simp
  | case3 => cases read
  | case4 => cases read
  | case5 decoded width rest inner innerRead ih =>
    have := ih read
    have := length_rest_readEscape innerRead
    simp only [List.length_cons]
    omega
  | case6 decoded width rest other _ _ _ ih =>
    have := ih read
    simp only [List.length_cons]
    omega

/-- What `lexFrom` terminates by: reading a token never gives back more text than there was behind
its first character. -/
theorem length_rest_readToken {first : Char} {rest : List Char} {scanned : Scanned TokenKind}
    (read : readToken first rest = .ok scanned) : scanned.rest.length ≤ rest.length := by
  unfold readToken at read
  split at read
  · obtain ⟨kind, _, rfl⟩ := map_eq_ok_iff.mp read
    exact (List.dropWhile_suffix isWordChar).length_le
  split at read
  · obtain ⟨inner, innerRead, rfl⟩ := map_eq_ok_iff.mp read
    exact length_rest_readString innerRead
  · unfold readSymbol readSymbol.single at read
    repeat' split at read
    all_goals cases read
    all_goals simp

/-- The tokens of a text that starts at a column, behind those already seen, the last one first. -/
def lexFrom (seen : List Token) (column : Nat) (text : List Char) :
    Except (Located LexicalFault) TokenStream :=
  match _gap : skipGap .between column text with
  | .error fault => .error fault
  | .ok (start, []) => .ok (.ofInit seen.reverse ⟨.endOfText, start⟩)
  | .ok (start, first :: rest) =>
    match _token : readToken first rest with
    | .error cause => .error ⟨start, cause⟩
    | .ok scanned => lexFrom (⟨scanned.value, start⟩ :: seen) (start + scanned.width) scanned.rest
termination_by text.length
decreasing_by
  have := length_skipGap _gap
  have := length_rest_readToken _token
  simp only [List.length_cons] at *
  omega

def lex (text : List Char) : Except (Located LexicalFault) TokenStream :=
  lexFrom [] 1 text

end CompilerFront.Expr
