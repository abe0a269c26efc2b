import CompilerFront.Expr.Fault

/-!
Contract: the literals of constant expressions, read from their characters.

Owns:
- number literals: binary, octal, decimal and hexadecimal digits with single underscores between;
- string literals and their escapes.

Does not own: where a literal starts; `CompilerFront.Expr.Lexer` finds that.
-/

namespace CompilerFront.Expr

/-! ## Digits -/

def digitValue? (character : Char) : Option Nat :=
  let point := character.toNat
  if 0x30 ≤ point ∧ point ≤ 0x39 then some (point - 0x30)
  else if 0x61 ≤ point ∧ point ≤ 0x7A then some (point - 0x61 + 10)
  else if 0x41 ≤ point ∧ point ≤ 0x5A then some (point - 0x41 + 10)
  else none

def isDigitOf (radix : Nat) (character : Char) : Bool :=
  match digitValue? character with
  | some value => value < radix
  | none => false

/-- The positional value of a row of digits; characters that are no digits count as zero. -/
def positional (radix : Nat) (digits : List Char) : Nat :=
  digits.foldl (fun value digit => value * radix + (digitValue? digit).getD 0) 0

/-! ## Number literals -/

/-- The radix that a word announces and the characters behind the announcement. -/
def splitRadix : List Char → Nat × List Char
  | '0' :: 'x' :: body => (16, body)
  | '0' :: 'X' :: body => (16, body)
  | '0' :: 'o' :: body => (8, body)
  | '0' :: 'O' :: body => (8, body)
  | '0' :: 'b' :: body => (2, body)
  | '0' :: 'B' :: body => (2, body)
  | body => (10, body)

/-- No underscore of the body stands at an end or beside another one. -/
def underscoresSingle : List Char → Bool
  | [] => true
  | '_' :: _ => false
  | [_] => true
  | _ :: '_' :: rest =>
    match rest with
    | [] => false
    | next :: _ => next != '_' && underscoresSingle rest
  | _ :: rest => underscoresSingle rest

/-- The integer that a word denotes as a number literal.

The word is a whole run of ASCII letters, digits and underscores that starts with a digit. Which of
several faults is reported follows the order of the checks: placement of underscores, digits of the
radix, leading zeros of a decimal, range. -/
def readNumber (word : List Char) : Except LexicalFault Int128 :=
  let (radix, body) := splitRadix word
  let digits := body.filter (· != '_')
  if body.isEmpty || !underscoresSingle body || !digits.all (isDigitOf radix) then
    .error (.malformedNumber body)
  else if radix == 10 && digits.length > 1 && digits.head? == some '0' then
    .error (.leadingZeros body)
  else
    match Int128.ofInt? (positional radix digits) with
    | some number => .ok number
    | none => .error .numberTooLarge

/-! ## String literals -/

/-- The character with a code point, unless it is a surrogate or beyond the last one. -/
def charOfPoint? (point : Nat) : Option Char :=
  if valid : point.isValidChar then some (Char.ofNatAux point valid) else none

def codePoint (digits : List Char) : Except LexicalFault Char :=
  match charOfPoint? (positional 16 digits) with
  | some character => .ok character
  | none => .error (.noSuchCodePoint digits)

/-- A value read off the head of a text, the number of characters it took, and what follows. -/
structure Scanned (Content : Type) where
  value : Content
  width : Nat
  rest : List Char
deriving Repr

/-- The character denoted by exactly `count` hexadecimal digits at the head of the text. -/
def readHexEscape (count : Nat) (text : List Char) : Except LexicalFault (Scanned Char) :=
  if (text.take count).length == count && (text.take count).all (isDigitOf 16) then
    (codePoint (text.take count)).map fun character => ⟨character, count, text.drop count⟩
  else
    .error .malformedHexEscape

/-- The character denoted by one to six hexadecimal digits and a closing brace. -/
def readBracedEscape (text : List Char) : Except LexicalFault (Scanned Char) :=
  match text.takeWhile (isDigitOf 16), text.dropWhile (isDigitOf 16) with
  | digits, '\x7d' :: rest =>
    if digits.isEmpty || digits.length > 6 then
      .error .malformedUnicodeEscape
    else
      (codePoint digits).map fun character => ⟨character, digits.length + 1, rest⟩
  | _, _ => .error .malformedUnicodeEscape

/-- The same reading when more characters were taken before it. -/
def Scanned.widen {Content : Type} (scanned : Scanned Content) (extra : Nat) :
    Scanned Content :=
  { scanned with width := scanned.width + extra }

/-- The character denoted by the escape whose backslash stands before the text. -/
def readEscape : List Char → Except LexicalFault (Scanned Char)
  | [] => .error .unterminatedString
  | '\\' :: rest => .ok ⟨'\\', 1, rest⟩
  | '"' :: rest => .ok ⟨'"', 1, rest⟩
  | 'n' :: rest => .ok ⟨'\n', 1, rest⟩
  | 'r' :: rest => .ok ⟨'\r', 1, rest⟩
  | 't' :: rest => .ok ⟨'\t', 1, rest⟩
  | 'v' :: rest => .ok ⟨'\x0b', 1, rest⟩
  | 'b' :: rest => .ok ⟨'\x08', 1, rest⟩
  | 'f' :: rest => .ok ⟨'\x0c', 1, rest⟩
  | 'x' :: rest => (readHexEscape 2 rest).map (·.widen 1)
  | 'u' :: '\x7b' :: rest => (readBracedEscape rest).map (·.widen 2)
  | 'u' :: rest => (readHexEscape 4 rest).map (·.widen 1)
  | other :: _ => .error (.unknownEscape other)

theorem map_eq_ok_iff {Fault Before After : Type} {change : Before → After}
    {result : Except Fault Before} {after : After} :
    result.map change = .ok after ↔ ∃ before, result = .ok before ∧ change before = after := by
  cases result <;> simp [Except.map]

/-- What follows a braced escape is shorter than the text it was read from. -/
theorem length_rest_readBracedEscape {text : List Char} {scanned : Scanned Char}
    (read : readBracedEscape text = .ok scanned) : scanned.rest.length < text.length := by
  unfold readBracedEscape at read
  split at read
  · rename_i rest _ shape
    split at read
    · cases read
    · obtain ⟨character, _, rfl⟩ := map_eq_ok_iff.mp read
      have shorter := (List.dropWhile_suffix (isDigitOf 16) (l := text)).length_le
      rw [shape] at shorter
      simp only [List.length_cons] at shorter
      exact shorter
  · cases read

theorem length_rest_readHexEscape {count : Nat} {text : List Char} {scanned : Scanned Char}
    (read : readHexEscape count text = .ok scanned) : scanned.rest.length ≤ text.length := by
  unfold readHexEscape at read
  split at read
  · obtain ⟨character, _, rfl⟩ := map_eq_ok_iff.mp read
    simp
  · cases read

/-- An escape uses up at least its first character, so a string full of escapes ends too. -/
theorem length_rest_readEscape {text : List Char} {scanned : Scanned Char}
    (read : readEscape text = .ok scanned) : scanned.rest.length < text.length := by
  unfold readEscape at read
  split at read
  case h_10 rest =>
    obtain ⟨inner, innerRead, rfl⟩ := map_eq_ok_iff.mp read
    have shorter := length_rest_readHexEscape innerRead
    exact Nat.lt_succ_of_le shorter
  case h_11 rest =>
    obtain ⟨inner, innerRead, rfl⟩ := map_eq_ok_iff.mp read
    have shorter := length_rest_readBracedEscape innerRead
    exact Nat.lt_succ_of_lt (Nat.lt_succ_of_lt shorter)
  case h_12 rest _ =>
    obtain ⟨inner, innerRead, rfl⟩ := map_eq_ok_iff.mp read
    have shorter := length_rest_readHexEscape innerRead
    exact Nat.lt_succ_of_le shorter
  all_goals cases read
  all_goals simp only [List.length_cons, Nat.lt_succ_self]

/-- The characters of a string literal whose opening quote stands before the text.

`decoded` holds the characters already read, the last one first; `width` counts what they took. -/
def readString (decoded : List Char) (width : Nat) (text : List Char) :
    Except LexicalFault (Scanned String) :=
  match text with
  | [] => .error .unterminatedString
  | '"' :: rest => .ok ⟨String.ofList decoded.reverse, width + 1, rest⟩
  | '\n' :: _ => .error .unterminatedString
  | '\\' :: rest =>
    match read : readEscape rest with
    | .error fault => .error fault
    | .ok scanned => readString (scanned.value :: decoded) (width + scanned.width + 1) scanned.rest
  | other :: rest => readString (other :: decoded) (width + 1) rest
termination_by text.length
decreasing_by
  · have := length_rest_readEscape read
    simp only [List.length_cons]
    omega
  · simp

end CompilerFront.Expr
