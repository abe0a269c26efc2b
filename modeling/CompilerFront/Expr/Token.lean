import CompilerFront.Expr.Int128

/-!
Contract: the tokens of constant expressions.

Owns:
- the symbols and their spellings, of which the two-character ones are preferred;
- tokens, which carry the column of their first character;
- `TokenStream`, a non-empty row of tokens whose last one never runs out.

Does not own: how a text is cut into tokens.
-/

namespace CompilerFront.Expr

inductive Symbol where
  | leftParen
  | rightParen
  | question
  | colon
  | plus
  | minus
  | star
  | slash
  | percent
  | bang
  | bangBang
  | tilde
  | amp
  | ampAmp
  | pipe
  | pipePipe
  | caret
  | shiftLeft
  | shiftRight
  | less
  | lessEqual
  | greater
  | greaterEqual
  | equal
  | notEqual
deriving DecidableEq, Repr

namespace Symbol

def spelling : Symbol → List Char
  | leftParen => ['(']
  | rightParen => [')']
  | question => ['?']
  | colon => [':']
  | plus => ['+']
  | minus => ['-']
  | star => ['*']
  | slash => ['/']
  | percent => ['%']
  | bang => ['!']
  | bangBang => ['!', '!']
  | tilde => ['~']
  | amp => ['&']
  | ampAmp => ['&', '&']
  | pipe => ['|']
  | pipePipe => ['|', '|']
  | caret => ['^']
  | shiftLeft => ['<', '<']
  | shiftRight => ['>', '>']
  | less => ['<']
  | lessEqual => ['<', '=']
  | greater => ['>']
  | greaterEqual => ['>', '=']
  | equal => ['=', '=']
  | notEqual => ['!', '=']

def ofPair? : Char → Char → Option Symbol
  | '!', '!' => some bangBang
  | '!', '=' => some notEqual
  | '=', '=' => some equal
  | '&', '&' => some ampAmp
  | '|', '|' => some pipePipe
  | '<', '<' => some shiftLeft
  | '>', '>' => some shiftRight
  | '<', '=' => some lessEqual
  | '>', '=' => some greaterEqual
  | _, _ => none

def ofChar? : Char → Option Symbol
  | '(' => some leftParen
  | ')' => some rightParen
  | '?' => some question
  | ':' => some colon
  | '+' => some plus
  | '-' => some minus
  | '*' => some star
  | '/' => some slash
  | '%' => some percent
  | '!' => some bang
  | '~' => some tilde
  | '&' => some amp
  | '|' => some pipe
  | '^' => some caret
  | '<' => some less
  | '>' => some greater
  | _ => none

end Symbol

/-- What a token is, without its place. -/
inductive TokenKind where
  | int (number : Int128)
  | string (text : String)
  | bool (truth : Bool)
  | null
  | symbol (symbol : Symbol)
  | endOfText
deriving DecidableEq, Repr

structure Token where
  kind : TokenKind
  column : Nat
deriving DecidableEq, Repr

/-- A non-empty row of tokens: the one to be read next and those behind it. -/
structure TokenStream where
  current : Token
  later : List Token
deriving DecidableEq, Repr

namespace TokenStream

def toList (stream : TokenStream) : List Token := stream.current :: stream.later

/-- The stream of the tokens of a list, the last one given apart. -/
def ofInit (initial : List Token) (last : Token) : TokenStream :=
  match initial with
  | [] => ⟨last, []⟩
  | first :: others => ⟨first, others ++ [last]⟩

@[simp] theorem toList_ofInit (initial : List Token) (last : Token) :
    (ofInit initial last).toList = initial ++ [last] := by
  cases initial <;> rfl

/-- The stream behind its current token; at the last token it stays where it is. -/
def advance (stream : TokenStream) : TokenStream :=
  match stream.later with
  | [] => stream
  | next :: others => ⟨next, others⟩

/-- Taking the token at the end of the text leaves the stream where it is, hence `≤` and not `<`. -/
theorem length_later_advance (stream : TokenStream) :
    stream.advance.later.length ≤ stream.later.length := by
  unfold advance
  split
  · exact Nat.le_refl _
  · rename_i shape
    rw [shape]
    simp

def atSymbol (stream : TokenStream) (symbol : Symbol) : Bool :=
  stream.current.kind == .symbol symbol

end TokenStream

end CompilerFront.Expr
