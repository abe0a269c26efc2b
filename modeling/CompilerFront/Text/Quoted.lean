import CompilerFront.Text.Control
import CompilerFront.Text.Graphic

/-!
Contract: the form in which diagnostics show texts, optional texts and rows of texts.

Owns:
- `quoted`, a text between quotes that is one line and shows no character that cannot be seen;
- the forms of a path, of an optional text and of a row of texts.
-/

namespace CompilerFront.Text

/-- One character between quotes: characters that are not graphic are given by their number. -/
def quotedChar (character : Char) : List Char :=
  match character with
  | '"' => ['\\', '"']
  | '\\' => ['\\', '\\']
  | '\n' => ['\\', 'n']
  | '\r' => ['\\', 'r']
  | '\t' => ['\\', 't']
  | '\x00' => ['\\', '0']
  | other =>
    if isGraphic other then [other]
    else '\\' :: 'u' :: '\x7b' :: (hexDigits other.toNat ++ ['\x7d'])

def quoted (text : String) : String :=
  String.ofList ('"' :: (text.toList.flatMap quotedChar ++ ['"']))

/-- A path between quotes; an apostrophe in it is escaped as well. -/
def quotedPath (path : String) : String :=
  String.ofList
    ('"' :: (path.toList.flatMap fun character =>
      if character = '\'' then ['\\', '\''] else quotedChar character) ++ ['"'])

def quotedOption : Option String → String
  | some text => s!"Some({quoted text})"
  | none => "None"

def quotedList (texts : List String) : String :=
  "[" ++ String.intercalate ", " (texts.map quoted) ++ "]"

end CompilerFront.Text
