import CompilerFront.Expr.Value

/-!
Contract: what can be wrong with a constant expression, where, and in which words.

Owns:
- the causes, one type per stage: `LexicalFault`, `SyntaxFault`, `ComputationFault`;
- `Located`, a cause with the column it is reported at;
- the error texts.

Columns count Unicode scalar values from 1.
-/

namespace CompilerFront.Expr

inductive LexicalFault where
  | unexpectedCharacter (character : Char)
  | identifier (word : List Char)
  | unterminatedComment
  | unterminatedString
  | malformedNumber (digits : List Char)
  | leadingZeros (digits : List Char)
  | numberTooLarge
  | unknownEscape (character : Char)
  | malformedHexEscape
  | malformedUnicodeEscape
  | noSuchCodePoint (digits : List Char)
deriving DecidableEq, Repr

inductive SyntaxFault where
  | expectedEnd
  | expectedColon
  | expectedClosing
  | unexpectedEnd
  | expectedExpression
  | tooDeep
deriving DecidableEq, Repr

inductive ComputationFault where
  | overflow
  | divisionByZero
  | shiftOutOfRange
  | nullValue
  | kindMismatch (operator : String) (expected found : Kind)
  | incomparable (left right : Kind) (operator : String)
deriving DecidableEq, Repr

structure Located (Cause : Type) where
  column : Nat
  cause : Cause
deriving DecidableEq, Repr

inductive Fault where
  | lexical (fault : LexicalFault)
  | syntactic (fault : SyntaxFault)
  | computational (fault : ComputationFault)
deriving DecidableEq, Repr

/-! ## Texts -/

def LexicalFault.message : LexicalFault → String
  | .unexpectedCharacter character => s!"Unexpected character `{String.singleton character}`"
  | .identifier word =>
    s!"Cannot evaluate identifier `{String.ofList word}` in a constant expression"
  | .unterminatedComment => "Unterminated block comment"
  | .unterminatedString => "Unterminated string literal"
  | .malformedNumber digits => s!"Invalid number literal `{String.ofList digits}`"
  | .leadingZeros digits => s!"Decimal literal `{String.ofList digits}` must not have leading zeros"
  | .numberTooLarge => "Integer overflow"
  | .unknownEscape character => s!"Invalid escape sequence `\\{String.singleton character}`"
  | .malformedHexEscape => "Invalid hex escape"
  | .malformedUnicodeEscape => "Invalid unicode escape"
  | .noSuchCodePoint digits => s!"Invalid code point `{String.ofList digits}`"

def SyntaxFault.message : SyntaxFault → String
  | .expectedEnd => "Expected end of expression"
  | .expectedColon => "Expected `:` in conditional expression"
  | .expectedClosing => "Expected `)`"
  | .unexpectedEnd => "Unexpected end of expression"
  | .expectedExpression => "Expected an expression"
  | .tooDeep => "Expression nested too deeply"

def ComputationFault.message : ComputationFault → String
  | .overflow => "Integer overflow"
  | .divisionByZero => "Division by zero"
  | .shiftOutOfRange => "Shift amount out of range"
  | .nullValue => "Null value"
  | .kindMismatch operator expected found =>
    s!"Type error: `{operator}` expects {expected.name}, got {found.name}"
  | .incomparable left right operator =>
    s!"Type error: cannot compare {left.name} and {right.name} with `{operator}`"

def Fault.message : Fault → String
  | .lexical fault => fault.message
  | .syntactic fault => fault.message
  | .computational fault => fault.message

/-- An error text, with the column behind it when there is one. -/
def describe (message : String) : Option Nat → String
  | some column => s!"{message} (at column {column})"
  | none => message

def Located.text (fault : Located Fault) : String :=
  describe fault.cause.message (some fault.column)

end CompilerFront.Expr
