/-!
Contract: lines of a text.

Owns:
- `firstLine`; a line ends before a line feed, or before a carriage return and a line feed;
- `line`, a text that ends with exactly one line feed more than its last character that is none.
-/

namespace CompilerFront.Text

def firstLineOf : List Char → List Char
  | [] => []
  | '\n' :: _ => []
  | '\r' :: '\n' :: _ => []
  | first :: rest => first :: firstLineOf rest

def firstLine (text : String) : String := String.ofList (firstLineOf text.toList)

/-- A text with one line feed in place of those at its end. -/
def line (text : String) : String :=
  String.ofList ((text.toList.reverse.dropWhile (· == '\n')).reverse ++ ['\n'])

end CompilerFront.Text
