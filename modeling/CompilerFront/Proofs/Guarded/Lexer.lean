import Mathlib.Data.List.Monad
import CompilerFront.Expr.Lexer
import CompilerFront.Proofs.Guarded.Machine

/-!
Contract: the lexer as a program that moves an index over the characters.

Owns:
- `lexAll` and the programs it is made of, every move of the index and every slice guarded;
- `At`, which ties an index to the text behind it, and the single steps.

Does not own: what the programs come to (`CompilerFront.Proofs.Guarded.Scanning`). The loops may
run forever.
-/

namespace CompilerFront.Expr.Guarded

open Machine (andThen orEnd require)

abbrev Lexed (Result : Type) : Type := Except (Located LexicalFault) Result

instance {Result : Type} : Nonempty (Lexed Result) := ⟨.error ⟨0, .unterminatedString⟩⟩

namespace Lexer

variable (characters : List Char)

/-! ## Programs -/

def peek : Machine Nat (Option Char) := do
  let index ← get
  return characters[index]?

def peekNext : Machine Nat (Option Char) := do
  let index ← get
  return characters[index + 1]?

/-- Moves the index, which must not leave the characters. -/
def advance (count : Nat) : Machine Nat Unit := do
  let index ← get
  require (index + count ≤ characters.length) .indexBeyondEnd
  set (index + count)

/-- The characters from a start up to a stop, both of which must be there. -/
def slice (start stop : Nat) : Machine Nat (List Char) := do
  require (start ≤ stop ∧ stop ≤ characters.length) .sliceOutOfBounds
  return (characters.drop start).take (stop - start)

/-- Takes the character at the index, if there is one and it is accepted. -/
def scanTurn (accepts : Char → Bool) (taken : List Char) :
    Machine Nat (List Char ⊕ List Char) := do
  match ← peek characters with
  | none => return .inr taken
  | some character =>
    if accepts character then
      advance characters 1
      return .inl (taken ++ [character])
    else return .inr taken

/-- The longest run of accepted characters at the index. -/
def scanWhile (accepts : Char → Bool) : Machine Nat (List Char) :=
  repeatM (scanTurn characters accepts) []

/-- Moves by one character of a block comment that started at a column, or behind its end. -/
def blockTurn (column : Nat) (_ : Unit) : Machine Nat (Unit ⊕ Lexed Unit) := do
  let current ← peek characters
  let next ← peekNext characters
  if current = none then return .inr (.error ⟨column, .unterminatedComment⟩)
  else if current = some '*' ∧ next = some '/' then
    advance characters 2
    return .inr (.ok ())
  else
    advance characters 1
    return .inl ()

def skipBlock (column : Nat) : Machine Nat (Lexed Unit) := repeatM (blockTurn characters column) ()

/-- Moves behind a blank or a comment, if one is at the index. -/
def gapTurn (_ : Unit) : Machine Nat (Unit ⊕ Lexed Unit) := do
  let current ← peek characters
  let next ← peekNext characters
  if (current.map Text.isBlank).getD false then
    advance characters 1
    return .inl ()
  else if current = some '/' ∧ next = some '/' then
    let _ ← scanWhile characters (· != '\n')
    return .inl ()
  else if current = some '/' ∧ next = some '*' then
    let index ← get
    advance characters 2
    orEnd (skipBlock characters (index + 1)) fun _ => return .inl ()
  else return .inr (.ok ())

def skipGaps : Machine Nat (Lexed Unit) := repeatM (gapTurn characters) ()

def radixOf (current next : Option Char) : Nat :=
  if current = some '0' ∧ (next = some 'x' ∨ next = some 'X') then 16
  else if current = some '0' ∧ (next = some 'o' ∨ next = some 'O') then 8
  else if current = some '0' ∧ (next = some 'b' ∨ next = some 'B') then 2
  else 10

/-- The integer of the characters behind the announcement of a radix, with the checks that
`readNumber` makes of them. -/
def numberOf (radix : Nat) (body : List Char) : Except LexicalFault Int128 :=
  let digits := body.filter (· != '_')
  if body.isEmpty || !underscoresSingle body || !digits.all (isDigitOf radix) then
    .error (.malformedNumber body)
  else if radix == 10 && digits.length > 1 && digits.head? == some '0' then
    .error (.leadingZeros body)
  else
    match Int128.ofInt? (positional radix digits) with
    | some number => .ok number
    | none => .error .numberTooLarge

def reportedAt {Result : Type} (column : Nat) : Except LexicalFault Result → Lexed Result
  | .ok result => .ok result
  | .error cause => .error ⟨column, cause⟩

def skipAnnouncement (radix : Nat) : Machine Nat Unit :=
  if radix = 10 then pure () else advance characters 2

/-- A number literal. Digits are asked for in radixes from two to thirty-six only. -/
def scanNumber (column : Nat) : Machine Nat (Lexed Int128) := do
  let current ← peek characters
  let next ← peekNext characters
  let radix := radixOf current next
  skipAnnouncement characters radix
  let body ← scanWhile characters isWordChar
  require (2 ≤ radix ∧ radix ≤ 36) .radix
  return reportedAt column (numberOf radix body)

def scanHexEscape (count column : Nat) : Machine Nat (Lexed Char) := do
  let index ← get
  if index + count > characters.length then return .error ⟨column, .malformedHexEscape⟩
  else
    let digits ← slice characters index (index + count)
    if digits.all (isDigitOf 16) then
      advance characters count
      return reportedAt column (codePoint digits)
    else return .error ⟨column, .malformedHexEscape⟩

/-- The character of hexadecimal digits in braces, of which the first has been taken. -/
def scanBracedEscape (column : Nat) : Machine Nat (Lexed Char) := do
  let digits ← scanWhile characters (isDigitOf 16)
  let current ← peek characters
  if current ≠ some '\x7d' ∨ digits.isEmpty ∨ digits.length > 6 then
    return .error ⟨column, .malformedUnicodeEscape⟩
  else
    advance characters 1
    return reportedAt column (codePoint digits)

def shortEscape? : Char → Option Char
  | '\\' => some '\\'
  | '"' => some '"'
  | 'n' => some '\n'
  | 'r' => some '\r'
  | 't' => some '\t'
  | 'v' => some '\x0b'
  | 'b' => some '\x08'
  | 'f' => some '\x0c'
  | _ => none

/-- The character of the escape whose backslash has been taken. -/
def scanEscape (column : Nat) : Machine Nat (Lexed Char) := do
  match ← peek characters with
  | none => return .error ⟨column, .unterminatedString⟩
  | some character =>
    advance characters 1
    match shortEscape? character with
    | some escaped => return .ok escaped
    | none =>
      if character = 'x' then scanHexEscape characters 2 column
      else if character = 'u' then
        let next ← peek characters
        if next = some '\x7b' then
          advance characters 1
          scanBracedEscape characters column
        else scanHexEscape characters 4 column
      else return .error ⟨column, .unknownEscape character⟩

def stringTurn (column : Nat) (decoded : List Char) : Machine Nat (List Char ⊕ Lexed String) := do
  match ← peek characters with
  | none => return .inr (.error ⟨column, .unterminatedString⟩)
  | some character =>
    advance characters 1
    if character = '"' then return .inr (.ok (String.ofList decoded.reverse))
    else if character = '\\' then
      orEnd (scanEscape characters column) fun escaped => return .inl (escaped :: decoded)
    else if character = '\n' then return .inr (.error ⟨column, .unterminatedString⟩)
    else return .inl (character :: decoded)

def scanString (column : Nat) (decoded : List Char) : Machine Nat (Lexed String) :=
  repeatM (stringTurn characters column) decoded

def scanSymbol (current : Char) (column : Nat) : Machine Nat (Lexed Symbol) := do
  let next ← peekNext characters
  match next.bind (Symbol.ofPair? current) with
  | some symbol =>
    advance characters 2
    return .ok symbol
  | none =>
    match Symbol.ofChar? current with
    | some symbol =>
      advance characters 1
      return .ok symbol
    | none => return .error ⟨column, .unexpectedCharacter current⟩

def scanToken (current : Char) (column : Nat) : Machine Nat (Lexed TokenKind) :=
  if current.isDigit then
    andThen (scanNumber characters column) fun number => return .ok (.int number)
  else if current = '"' then do
    advance characters 1
    andThen (scanString characters column []) fun text => return .ok (.string text)
  else if current.isAlpha || current == '_' then do
    let word ← scanWhile characters isWordChar
    match keyword? word with
    | some kind => return .ok kind
    | none => return .error ⟨column, .identifier word⟩
  else
    andThen (scanSymbol characters current column) fun symbol => return .ok (.symbol symbol)

def nextToken : Machine Nat (Lexed Token) :=
  andThen (skipGaps characters) fun _ => do
    let index ← get
    match ← peek characters with
    | none => return .ok ⟨.endOfText, index + 1⟩
    | some current =>
      andThen (scanToken characters current (index + 1)) fun kind => return .ok ⟨kind, index + 1⟩

/-- Takes one token, behind those already seen, the last one first. -/
def tokenTurn (seen : List Token) : Machine Nat (List Token ⊕ Lexed (List Token)) :=
  orEnd (nextToken characters) fun token =>
    if token.kind = .endOfText then return .inr (.ok (token :: seen).reverse)
    else return .inl (token :: seen)

/-- All tokens up to the end of the text, behind those already seen, the last one first. -/
def lexAll (seen : List Token) : Machine Nat (Lexed (List Token)) :=
  repeatM (tokenTurn characters) seen

/-! ## The index and the text behind it -/

/-- `At characters index text`: the index has not left the characters, and the text is behind it. -/
structure At (characters : List Char) (index : Nat) (text : List Char) : Prop where
  le : index ≤ characters.length
  behind : characters.drop index = text

section At

variable {characters : List Char} {index : Nat} {text : List Char}

theorem at_start (characters : List Char) : At characters 0 characters :=
  ⟨Nat.zero_le _, List.drop_zero⟩

theorem At.length_eq (position : At characters index text) :
    characters.length = index + text.length := by
  have le := position.le
  have split := congrArg List.length position.behind
  rw [List.length_drop] at split
  omega

/-- The guard of a slice asks for this much: the position and the characters taken stay within the
text. -/
theorem At.drop {count : Nat} (position : At characters index text) (le : count ≤ text.length) :
    At characters (index + count) (text.drop count) := by
  refine ⟨?_, ?_⟩
  · have total := position.length_eq
    omega
  · rw [← position.behind, List.drop_drop]

theorem At.append {taken rest : List Char} (position : At characters index (taken ++ rest)) :
    At characters (index + taken.length) rest := by
  have le : taken.length ≤ (taken ++ rest).length := by
    rw [List.length_append]
    omega
  have moved := position.drop le
  rwa [List.drop_left] at moved

theorem At.tail {first : Char} {rest : List Char} (position : At characters index (first :: rest)) :
    At characters (index + 1) rest := by
  have moved : At characters index ([first] ++ rest) := position
  exact moved.append

/-! ## Steps -/

theorem runs_peek (position : At characters index text) :
    Runs (peek characters) index text.head? index := by
  refine runs_bind runs_get ?_
  rw [← position.behind, List.head?_drop]
  exact runs_pure _

theorem runs_peekNext (position : At characters index text) :
    Runs (peekNext characters) index text[1]? index := by
  refine runs_bind runs_get ?_
  rw [← position.behind, List.getElem?_drop]
  exact runs_pure _

theorem runs_advance {count : Nat} (position : At characters index text)
    (le : count ≤ text.length) : Runs (advance characters count) index () (index + count) := by
  have total := position.length_eq
  refine runs_bind runs_get (runs_bind (runs_require ?_) runs_set)
  omega

theorem runs_advance_one {first : Char} {rest : List Char}
    (position : At characters index (first :: rest)) :
    Runs (advance characters 1) index () (index + 1) :=
  runs_advance position (Nat.le_add_left _ _)

theorem runs_advance_two {first second : Char} {rest : List Char}
    (position : At characters index (first :: second :: rest)) :
    Runs (advance characters 2) index () (index + 2) :=
  runs_advance position (Nat.le_add_left _ _)

theorem runs_slice {count : Nat} (position : At characters index text)
    (le : count ≤ text.length) :
    Runs (slice characters index (index + count)) index (text.take count) index := by
  have total := position.length_eq
  refine runs_bind (runs_require ?_) ?_
  · omega
  · rw [position.behind, Nat.add_sub_cancel_left]
    exact runs_pure _

/-- By induction on the characters left; those taken so far are carried along. -/
theorem runs_scanWhile_behind (accepts : Char → Bool) (position : At characters index text)
    (taken : List Char) :
    Runs (repeatM (scanTurn characters accepts) taken) index (taken ++ text.takeWhile accepts)
      (index + (text.takeWhile accepts).length) := by
  induction text generalizing index taken with
  | nil =>
    rw [List.takeWhile_nil, List.append_nil]
    exact runs_repeatM_last (runs_bind (runs_peek position) (runs_pure _))
  | cons first rest inductionHypothesis =>
    rw [List.takeWhile_cons]
    cases accepted : accepts first with
    | false =>
      rw [if_neg Bool.false_ne_true, List.append_nil]
      refine runs_repeatM_last (runs_bind (runs_peek position) ?_)
      simp only [List.head?_cons, accepted, Bool.false_eq_true, ↓reduceIte]
      exact runs_pure _
    | true =>
      have others := inductionHypothesis position.tail (taken ++ [first])
      rw [List.append_assoc, List.singleton_append, Nat.add_right_comm] at others
      rw [if_pos rfl]
      refine runs_repeatM_next (runs_bind (runs_peek position) ?_) others
      simp only [List.head?_cons, accepted, ↓reduceIte]
      exact runs_bind (runs_advance_one position) (runs_pure _)

theorem runs_scanWhile (accepts : Char → Bool) (position : At characters index text) :
    Runs (scanWhile characters accepts) index (text.takeWhile accepts)
      (index + (text.takeWhile accepts).length) :=
  runs_scanWhile_behind accepts position []

theorem at_scanWhile (accepts : Char → Bool) (position : At characters index text) :
    At characters (index + (text.takeWhile accepts).length) (text.dropWhile accepts) := by
  have split : At characters index (text.takeWhile accepts ++ text.dropWhile accepts) := by
    rw [List.takeWhile_append_dropWhile]
    exact position
  exact split.append

end At

end Lexer

end CompilerFront.Expr.Guarded
