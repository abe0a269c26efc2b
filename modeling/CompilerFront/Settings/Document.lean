import CompilerFront.Settings.Assembly
import CompilerFront.Settings.Quotation
import CompilerFront.Settings.Scalar

/-!
Contract: reading a settings document.

Owns:
- keys and paths of keys, values, and statements;
- `parseDocument`, which gives the fields of a well-formed document and nothing otherwise;
- the limits on nesting and on the length of paths.

Readers that call each other count down the steps they may take; the count given at the start is
more than a document of that length can need.
-/

namespace CompilerFront.Settings

/-- Arrays and tables in braces may be nested, and paths may be long, below this number. -/
def nestingLimit : Nat := 80

def isKeyChar (character : Char) : Bool :=
  character.isAlphanum || character == '_' || character == '-'

def key? (text : List Char) : Option (String × List Char) :=
  match text with
  | '"' :: rest => (basicText? [] rest).map fun (key, after) => (String.ofList key, after)
  | '\'' :: rest => (literalText? [] rest).map fun (key, after) => (String.ofList key, after)
  | bare =>
    if (bare.takeWhile isKeyChar).isEmpty then none
    else some (String.ofList (bare.takeWhile isKeyChar), bare.dropWhile isKeyChar)

/-- A path at the head of a text: keys with points between them, and spaces around each. -/
def path? (steps : Nat) (text : List Char) : Option (List String × List Char) :=
  match steps with
  | 0 => none
  | steps + 1 =>
    (key? (skipSpaces text)).bind fun (key, after) =>
      match skipSpaces after with
      | '.' :: rest => (path? steps rest).map fun (keys, behind) => (key :: keys, behind)
      | behind => some ([key], behind)

/-- A path that is not too long; it has fewer keys than its limit. -/
def shortPath? (text : List Char) : Option (List String × List Char) :=
  path? (nestingLimit - 1) text

/-- A value of one word; a date may be followed by a time behind one space. -/
def word? (text : List Char) : Option (Node × List Char) :=
  let word := text.takeWhile isWordChar
  let after := text.dropWhile isWordChar
  match isDate word, after with
  | true, ' ' :: behind =>
    if isTimeWithOffset (behind.takeWhile isWordChar) then
      some (.dateTime, behind.dropWhile isWordChar)
    else some (.dateTime, after)
  | _, _ => (readWord? word).map fun node => (node, after)

mutual

/-- A value at the head of a text, inside a number of arrays and tables. -/
def value? (steps nesting : Nat) (text : List Char) : Option (Node × List Char) :=
  match steps with
  | 0 => none
  | steps + 1 =>
    match text with
    | '"' :: _ | '\'' :: _ =>
      (quotedText? text).map fun (characters, rest) => (.string (String.ofList characters), rest)
    | '[' :: rest =>
      if nesting + 1 < nestingLimit then
        (elements? steps (nesting + 1) [] rest).map fun (elements, after) =>
          (.array elements, after)
      else none
    | '\x7b' :: rest =>
      if nesting + 1 < nestingLimit then
        match skipSpaces rest with
        | '\x7d' :: after => some (.table [], after)
        | _ =>
          (fields? steps (nesting + 1) [] rest).bind fun (fields, after) =>
            (tableOfFields fields).map fun table => (table, after)
      else none
    | other => word? other

/-- The rest of an array behind its bracket or a comma; `read` holds its values, the last first. -/
def elements? (steps nesting : Nat) (read : List Node) (text : List Char) :
    Option (List Node × List Char) :=
  match steps with
  | 0 => none
  | steps + 1 =>
    match skipLayout? false text with
    | some (']' :: rest) => some (read.reverse, rest)
    | some first =>
      (value? steps nesting first).bind fun (node, after) =>
        match skipLayout? false after with
        | some (',' :: rest) => elements? steps nesting (node :: read) rest
        | some (']' :: rest) => some ((node :: read).reverse, rest)
        | _ => none
    | none => none

/-- The rest of a table behind its brace or a comma; `read` holds its fields, the last first. -/
def fields? (steps nesting : Nat) (read : List (List String × Node)) (text : List Char) :
    Option (List (List String × Node) × List Char) :=
  match steps with
  | 0 => none
  | steps + 1 =>
    (shortPath? text).bind fun (path, atSign) =>
      match atSign with
      | '=' :: rest =>
        (value? steps nesting (skipSpaces rest)).bind fun (node, after) =>
          match skipSpaces after with
          | ',' :: behind => fields? steps nesting ((path, node) :: read) behind
          | '\x7d' :: behind => some (((path, node) :: read).reverse, behind)
          | _ => none
      | _ => none

end

/-- A statement at the head of a text, and the text behind its line. -/
def statement? (steps : Nat) (text : List Char) : Option (Statement × List Char) :=
  match text with
  | '[' :: '[' :: rest =>
    (shortPath? rest).bind fun (path, after) =>
      match after with
      | ']' :: ']' :: behind => (endLine? behind).map fun next => (.rowHeader path, next)
      | _ => none
  | '[' :: rest =>
    (shortPath? rest).bind fun (path, after) =>
      match after with
      | ']' :: behind => (endLine? behind).map fun next => (.header path, next)
      | _ => none
  | other =>
    (shortPath? other).bind fun (path, atSign) =>
      match atSign with
      | '=' :: rest =>
        (value? steps 0 (skipSpaces rest)).bind fun (node, after) =>
          (endLine? after).map fun next => (.field path node, next)
      | _ => none

/-- The statements of a text behind those already read, the last one first. -/
def statements? (steps : Nat) (read : List Statement) (text : List Char) :
    Option (List Statement) :=
  match steps with
  | 0 => none
  | steps + 1 =>
    match skipSpaces text with
    | [] => some read.reverse
    | '#' :: comment => (endLine? ('#' :: comment)).bind fun next => statements? steps read next
    | first :: rest =>
      match newline? (first :: rest) with
      | some next => statements? steps read next
      | none =>
        (statement? (2 * (rest.length + 2)) (first :: rest)).bind fun (statement, next) =>
          statements? steps (statement :: read) next

/-- A text without the mark of byte order at its head. -/
def dropMark : List Char → List Char
  | '\ufeff' :: rest => rest
  | text => text

def parseDocument (text : String) : Option Fields :=
  let characters := dropMark text.toList
  (statements? (characters.length + 1) [] characters).bind fieldsOfStatements

end CompilerFront.Settings
