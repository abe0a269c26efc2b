import CompilerFront.Expr.Int128
import CompilerFront.Text.Control

/-!
Contract: the constants that expressions denote, their kinds and their printed form.

Owns:
- `Value` and `Kind`;
- `Value.text`, a form that is one line and that the expression reader takes back.

Does not own: the reader of string escapes (`CompilerFront.Expr.Lexer`).
-/

namespace CompilerFront.Expr

/-- The constants: integers, truth values, the null value and strings. -/
inductive Value where
  | int (number : Int128)
  | bool (truth : Bool)
  | null
  | string (text : String)
deriving DecidableEq, Repr

inductive Kind where
  | int
  | bool
  | null
  | string
deriving DecidableEq, Repr

def Kind.name : Kind → String
  | .int => "Int"
  | .bool => "Bool"
  | .null => "null"
  | .string => "String"

namespace Value

def kind : Value → Kind
  | .int _ => .int
  | .bool _ => .bool
  | .null => .null
  | .string _ => .string

/-- One character of a string literal.

The quote, the backslash and six controls have escapes of their own; the other ASCII controls are
written with two hexadecimal digits, the remaining controls in braces, and all else as it is. -/
def escape (character : Char) : List Char :=
  match character with
  | '"' => ['\\', '"']
  | '\\' => ['\\', '\\']
  | '\n' => ['\\', 'n']
  | '\r' => ['\\', 'r']
  | '\t' => ['\\', 't']
  | '\x0b' => ['\\', 'v']
  | '\x08' => ['\\', 'b']
  | '\x0c' => ['\\', 'f']
  | other =>
    if Text.isAsciiControl other then
      '\\' :: 'x' :: Text.hexDigitsPadded 2 other.toNat
    else if Text.isControl other then
      '\\' :: 'u' :: '\x7b' :: (Text.hexDigits other.toNat ++ ['\x7d'])
    else
      [other]

def quote (characters : List Char) : List Char :=
  '"' :: (characters.flatMap escape ++ ['"'])

def characters : Value → List Char
  | .int number => number.text
  | .bool true => "true".toList
  | .bool false => "false".toList
  | .null => "null".toList
  | .string text => quote text.toList

def text (value : Value) : String := String.ofList value.characters

end Value

end CompilerFront.Expr
