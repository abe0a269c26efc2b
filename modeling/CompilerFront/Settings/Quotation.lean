import CompilerFront.Expr.Literal

/-!
Contract: blanks, comments and quoted texts of settings documents.

Owns:
- what may stand between and behind values;
- texts in double and single quotes, on one line or, in three quotes, on several.

Each reader gives the text behind what it read, or nothing when it is not well-formed.
-/

namespace CompilerFront.Settings

/-! ## Layout -/

def isSpace (character : Char) : Bool := character == ' ' || character == '\t'

/-- Characters allowed in comments and literal texts: a tab and all but the ASCII controls. -/
def isPlain (character : Char) : Bool :=
  character == '\t' || (0x20 ≤ character.toNat && character.toNat != 0x7F)

def skipSpaces (text : List Char) : List Char := text.dropWhile isSpace

/-- The text behind a line end, which is a line feed or a carriage return with a line feed. -/
def newline? : List Char → Option (List Char)
  | '\n' :: rest => some rest
  | '\r' :: '\n' :: rest => some rest
  | _ => none

/-- The text behind spaces, a comment and the end of the line or of the document. -/
def endLine? (text : List Char) : Option (List Char) :=
  let behind := match skipSpaces text with
    | '#' :: comment => comment.dropWhile isPlain
    | other => other
  if behind.isEmpty then some [] else newline? behind

/-- The text behind spaces, line ends and comments; a comment must end with a line. -/
def skipLayout? (inComment : Bool) : List Char → Option (List Char)
  | [] => if inComment then none else some []
  | '\n' :: rest => skipLayout? false rest
  | '\r' :: '\n' :: rest => skipLayout? false rest
  | first :: rest =>
    if inComment then
      if isPlain first then skipLayout? true rest else none
    else if isSpace first then skipLayout? false rest
    else if first == '#' then skipLayout? true rest
    else some (first :: rest)

/-! ## Escapes -/

def letterEscape? : Char → Option Char
  | 'b' => some '\x08'
  | 't' => some '\t'
  | 'n' => some '\n'
  | 'f' => some '\x0c'
  | 'r' => some '\r'
  | '"' => some '"'
  | '\\' => some '\\'
  | _ => none

def numberEscape? (digits : List Char) : Option Char :=
  if digits.all (Expr.isDigitOf 16) then Expr.charOfPoint? (Expr.positional 16 digits) else none

/-! ## Quoted texts -/

/-- The rest of a text in double quotes on one line; `read` holds its characters, the last first. -/
def basicText? (read : List Char) : List Char → Option (List Char × List Char)
  | '"' :: rest => some (read.reverse, rest)
  | '\\' :: 'u' :: a :: b :: c :: d :: rest =>
    match numberEscape? [a, b, c, d] with
    | some character => basicText? (character :: read) rest
    | none => none
  | '\\' :: 'U' :: a :: b :: c :: d :: e :: f :: g :: h :: rest =>
    match numberEscape? [a, b, c, d, e, f, g, h] with
    | some character => basicText? (character :: read) rest
    | none => none
  | '\\' :: letter :: rest =>
    match letterEscape? letter with
    | some character => basicText? (character :: read) rest
    | none => none
  | first :: rest =>
    if isPlain first then basicText? (first :: read) rest else none
  | [] => none

/-- The rest of a text in single quotes on one line. -/
def literalText? (read : List Char) : List Char → Option (List Char × List Char)
  | '\'' :: rest => some (read.reverse, rest)
  | first :: rest =>
    if isPlain first then literalText? (first :: read) rest else none
  | [] => none

/-- Where a reader stands in a text on several lines: among its characters, behind a backslash
with only spaces since, or behind the line end that such a backslash removes. -/
inductive FoldState where
  | characters
  | backslash
  | folding
deriving DecidableEq, Repr

/-- The rest of a text in three double quotes; up to two more quotes may stand before the last. -/
def basicLines? (state : FoldState) (read : List Char) :
    List Char → Option (List Char × List Char)
  | [] => none
  | '\n' :: rest =>
    match state with
    | .characters => basicLines? .characters ('\n' :: read) rest
    | .backslash | .folding => basicLines? .folding read rest
  | '\r' :: '\n' :: rest =>
    match state with
    | .characters => basicLines? .characters ('\n' :: read) rest
    | .backslash | .folding => basicLines? .folding read rest
  | '"' :: '"' :: '"' :: '"' :: '"' :: rest =>
    if state = .backslash then none else some (('"' :: '"' :: read).reverse, rest)
  | '"' :: '"' :: '"' :: '"' :: rest =>
    if state = .backslash then none else some (('"' :: read).reverse, rest)
  | '"' :: '"' :: '"' :: rest =>
    if state = .backslash then none else some (read.reverse, rest)
  | '\\' :: 'u' :: a :: b :: c :: d :: rest =>
    match state, numberEscape? [a, b, c, d] with
    | .backslash, _ => none
    | _, some character => basicLines? .characters (character :: read) rest
    | _, none => none
  | '\\' :: 'U' :: a :: b :: c :: d :: e :: f :: g :: h :: rest =>
    match state, numberEscape? [a, b, c, d, e, f, g, h] with
    | .backslash, _ => none
    | _, some character => basicLines? .characters (character :: read) rest
    | _, none => none
  | '\\' :: '\n' :: rest =>
    if state = .backslash then none else basicLines? .folding read rest
  | '\\' :: '\r' :: '\n' :: rest =>
    if state = .backslash then none else basicLines? .folding read rest
  | '\\' :: letter :: rest =>
    if state = .backslash then none
    else if isSpace letter then basicLines? .backslash read rest
    else
      match letterEscape? letter with
      | some character => basicLines? .characters (character :: read) rest
      | none => none
  | first :: rest =>
    match state with
    | .characters =>
      if isPlain first then basicLines? .characters (first :: read) rest else none
    | .backslash =>
      if isSpace first then basicLines? .backslash read rest else none
    | .folding =>
      if isSpace first then basicLines? .folding read rest
      else if isPlain first then basicLines? .characters (first :: read) rest
      else none

/-- The rest of a text in three single quotes; up to two more quotes may stand before the last. -/
def literalLines? (read : List Char) : List Char → Option (List Char × List Char)
  | [] => none
  | '\n' :: rest => literalLines? ('\n' :: read) rest
  | '\r' :: '\n' :: rest => literalLines? ('\n' :: read) rest
  | '\'' :: '\'' :: '\'' :: '\'' :: '\'' :: rest => some (('\'' :: '\'' :: read).reverse, rest)
  | '\'' :: '\'' :: '\'' :: '\'' :: rest => some (('\'' :: read).reverse, rest)
  | '\'' :: '\'' :: '\'' :: rest => some (read.reverse, rest)
  | first :: rest =>
    if isPlain first then literalLines? (first :: read) rest else none

def dropNewline (text : List Char) : List Char := (newline? text).getD text

/-- A quoted text at the head of a document, on one line or several. -/
def quotedText? : List Char → Option (List Char × List Char)
  | '"' :: '"' :: '"' :: rest => basicLines? .characters [] (dropNewline rest)
  | '\'' :: '\'' :: '\'' :: rest => literalLines? [] (dropNewline rest)
  | '"' :: rest => basicText? [] rest
  | '\'' :: rest => literalText? [] rest
  | _ => none

end CompilerFront.Settings
