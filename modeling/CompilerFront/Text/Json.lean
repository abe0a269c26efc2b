import CompilerFront.Text.Control

/-!
Contract: strings and rows of them in the interchange form of build requests.

Owns:
- the escapes of a string: quote, backslash, and the characters below U+0020;
- rows in brackets and records in braces, without blanks.

Does not own: which fields a request has.
-/

namespace CompilerFront.Text.Json

def escape (character : Char) : List Char :=
  match character with
  | '"' => ['\\', '"']
  | '\\' => ['\\', '\\']
  | '\x08' => ['\\', 'b']
  | '\x0c' => ['\\', 'f']
  | '\n' => ['\\', 'n']
  | '\r' => ['\\', 'r']
  | '\t' => ['\\', 't']
  | other =>
    if other.toNat < 0x20 then '\\' :: 'u' :: hexDigitsPadded 4 other.toNat
    else [other]

def string (characters : List Char) : List Char :=
  '"' :: (characters.flatMap escape ++ ['"'])

def separated : List (List Char) → List Char
  | [] => []
  | [single] => single
  | first :: rest => first ++ ',' :: separated rest

def array (elements : List (List Char)) : List Char :=
  '[' :: (separated elements ++ [']'])

def field (name : String) (value : List Char) : List Char :=
  string name.toList ++ ':' :: value

def object (fields : List (List Char)) : List Char :=
  '\x7b' :: (separated fields ++ ['\x7d'])

end CompilerFront.Text.Json
