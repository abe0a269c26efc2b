import CompilerFront.Backend.Child
import CompilerFront.Host.Files

/-!
Contract: the scripts that a backend may consist of.

Owns:
- cutting a script into simple commands: words with quotes and parameters, redirections, and the
  signs `;`, `&&`, `||` and line ends between them;
- expanding the words of a command to its arguments.

Does not own: what the commands do.
-/

namespace CompilerFront.Host.Shell

/-! ## Scripts -/

inductive Part where
  | text (characters : List Char) (isQuoted : Bool)
  | parameter (name : List Char) (default : Option (List Char)) (isQuoted : Bool)
deriving DecidableEq, Repr

abbrev Word : Type := List Part

structure Redirection where
  sign : List Char
  target : Word
deriving DecidableEq, Repr

structure SimpleCommand where
  words : List Word := []
  redirections : List Redirection := []
deriving DecidableEq, Repr

/-- When a command runs, given the status of the command before it. -/
inductive Condition where
  | always
  | afterSuccess
  | afterFailure
deriving DecidableEq, Repr

inductive Piece where
  | word (word : Word)
  | redirect (sign : List Char)
  | next (condition : Condition)
  | unsupported
deriving DecidableEq, Repr

def isNameChar (character : Char) : Bool := character.isAlphanum || character == '_'

/-- The parameter behind a dollar sign, and what follows it. -/
def parameter (isQuoted : Bool) (text : List Char) : Option (Part × List Char) :=
  match text with
  | '\x7b' :: rest =>
    let body := rest.takeWhile (· != '\x7d')
    match rest.dropWhile (· != '\x7d') with
    | _ :: after =>
      let name := body.takeWhile fun character => isNameChar character || character == '@'
      match body.dropWhile fun character => isNameChar character || character == '@' with
      | [] => some (.parameter name none isQuoted, after)
      | ':' :: '-' :: default => some (.parameter name (some default) isQuoted, after)
      | _ => none
    | [] => none
  | first :: rest =>
    if first ∈ ['@', '*', '#', '$', '?'] || first.isDigit then
      some (.parameter [first] none isQuoted, rest)
    else if isNameChar first then
      some (.parameter (text.takeWhile isNameChar) none isQuoted, text.dropWhile isNameChar)
    else some (.text ['$'] isQuoted, text)
  | [] => some (.text ['$'] isQuoted, [])

/-- The parts between double quotes, behind those already read, and what follows the quote. -/
def doubleQuoted (steps : Nat) (read : Word) (text : List Char) : Option (Word × List Char) :=
  match steps, text with
  | 0, _ | _, [] => none
  | _ + 1, '"' :: rest => some (read ++ [.text [] true], rest)
  | steps + 1, '\\' :: escaped :: rest =>
    if escaped ∈ ['$', '\x60', '"', '\\'] then
      doubleQuoted steps (read ++ [.text [escaped] true]) rest
    else doubleQuoted steps (read ++ [.text ['\\', escaped] true]) rest
  | steps + 1, '$' :: rest =>
    (parameter true rest).bind fun (part, after) => doubleQuoted steps (read ++ [part]) after
  | steps + 1, other :: rest => doubleQuoted steps (read ++ [.text [other] true]) rest

def endsWord (character : Char) : Bool :=
  character ∈ [' ', '\t', '\n', ';', '&', '|', '<', '>', '(', ')']

/-- The rest of a word behind the parts already read, and what follows it. -/
def word (steps : Nat) (read : Word) (text : List Char) : Option (Word × List Char) :=
  match steps, text with
  | 0, _ => none
  | _, [] => some (read, [])
  | steps + 1, '\'' :: rest =>
    match rest.dropWhile (· != '\'') with
    | _ :: after => word steps (read ++ [.text (rest.takeWhile (· != '\'')) true]) after
    | [] => none
  | steps + 1, '"' :: rest =>
    (doubleQuoted steps [] rest).bind fun (parts, after) => word steps (read ++ parts) after
  | steps + 1, '\\' :: escaped :: rest => word steps (read ++ [.text [escaped] true]) rest
  | steps + 1, '$' :: rest =>
    (parameter false rest).bind fun (part, after) => word steps (read ++ [part]) after
  | steps + 1, first :: rest =>
    if endsWord first then some (read, first :: rest)
    else word steps (read ++ [.text [first] false]) rest

/-- The pieces of a script; `read` holds those already found, the last first. -/
def pieces (steps : Nat) (read : List Piece) (text : List Char) : List Piece :=
  match steps, text with
  | 0, _ => (Piece.unsupported :: read).reverse
  | _, [] => read.reverse
  | steps + 1, ' ' :: rest | steps + 1, '\t' :: rest => pieces steps read rest
  | steps + 1, '#' :: rest => pieces steps read (rest.dropWhile (· != '\n'))
  | steps + 1, '\n' :: rest | steps + 1, ';' :: rest =>
    pieces steps (.next .always :: read) rest
  | steps + 1, '&' :: '&' :: rest => pieces steps (.next .afterSuccess :: read) rest
  | steps + 1, '|' :: '|' :: rest => pieces steps (.next .afterFailure :: read) rest
  | steps + 1, '2' :: '>' :: '&' :: rest => pieces steps (.redirect ['2', '>', '&'] :: read) rest
  | steps + 1, '2' :: '>' :: rest => pieces steps (.redirect ['2', '>'] :: read) rest
  | steps + 1, '1' :: '>' :: '&' :: rest => pieces steps (.redirect ['>', '&'] :: read) rest
  | steps + 1, '1' :: '>' :: rest => pieces steps (.redirect ['>'] :: read) rest
  | steps + 1, '>' :: '>' :: rest => pieces steps (.redirect ['>', '>'] :: read) rest
  | steps + 1, '>' :: '&' :: rest => pieces steps (.redirect ['>', '&'] :: read) rest
  | steps + 1, '>' :: rest => pieces steps (.redirect ['>'] :: read) rest
  | steps + 1, '<' :: rest => pieces steps (.redirect ['<'] :: read) rest
  | steps + 1, other =>
    if other.head?.any endsWord then (Piece.unsupported :: read).reverse
    else
      match word steps [] other with
      | some (found, rest) => pieces steps (.word found :: read) rest
      | none => (Piece.unsupported :: read).reverse

/-- The commands of a row of pieces, each with its condition, if all pieces are supported. -/
def commands (condition : Condition) (open? : SimpleCommand) :
    List Piece → Option (List (Condition × SimpleCommand))
  | [] => some [(condition, open?)]
  | .word found :: rest =>
    commands condition { open? with words := open?.words ++ [found] } rest
  | .redirect sign :: .word target :: rest =>
    commands condition
      { open? with redirections := open?.redirections ++ [⟨sign, target⟩] } rest
  | .redirect _ :: _ => none
  | .next following :: rest =>
    (commands following {} rest).map fun others => (condition, open?) :: others
  | .unsupported :: _ => none

def parseScript (script : List Char) : Option (List (Condition × SimpleCommand)) :=
  commands .always {} (pieces (2 * script.length + 2) [] script)

/-! ## Expansion -/

structure Parameters where
  name : String
  arguments : List String
  bindings : List (String × String) := []
  status : Nat := 0
deriving Repr

/-- The process number that scripts see as their own. -/
def ownNumber : String := "4242"

def Parameters.value? (parameters : Parameters) (name : List Char) : Option String :=
  match name with
  | ['$'] => some ownNumber
  | ['#'] => some (toString parameters.arguments.length)
  | ['?'] => some (toString parameters.status)
  | ['@'] | ['*'] => some (String.intercalate " " parameters.arguments)
  | ['0'] => some parameters.name
  | digits =>
    match (String.ofList digits).toNat? with
    | some number => parameters.arguments[number - 1]?
    | none =>
      (parameters.bindings.find? fun entry => entry.1.toList = digits).map Prod.snd

/-- The fields of a word under expansion: those that are complete, and the one still open. -/
structure Expanding where
  done : List (List Char) := []
  current : Option (List Char) := none

/-- More characters for the field that is open. -/
def Expanding.add (expanding : Expanding) (characters : List Char) : Expanding :=
  { expanding with current := some (expanding.current.getD [] ++ characters) }

/-- No field is open any more. -/
def Expanding.close (expanding : Expanding) : Expanding :=
  match expanding.current with
  | some field => ⟨expanding.done ++ [field], none⟩
  | none => expanding

/-- The characters of an unquoted value, which spaces and line ends cut into fields. -/
def Expanding.split (expanding : Expanding) : List Char → Expanding
  | [] => expanding
  | first :: rest =>
    if first ∈ [' ', '\t', '\n'] then expanding.close.split rest
    else (expanding.add [first]).split rest

/-- Whole fields, the first of which continues the open one. -/
def Expanding.addFields (expanding : Expanding) : List String → Expanding
  | [] => expanding
  | [last] => expanding.add last.toList
  | first :: rest => (expanding.add first.toList).close.addFields rest

def Parameters.expandPart (parameters : Parameters) (expanding : Expanding) (part : Part) :
    Expanding :=
  match part with
  | .text characters _ => expanding.add characters
  | .parameter ['@'] _ true => expanding.addFields parameters.arguments
  | .parameter name default isQuoted =>
    let given := ((parameters.value? name).map String.toList).getD []
    let value := if given.isEmpty then default.getD [] else given
    if isQuoted then expanding.add value else expanding.split value

/-- Whether a word is nothing but all arguments between double quotes. -/
def isAllArguments (word : Word) : Bool :=
  word == [.parameter ['@'] none true, .text [] true]

/-- The fields that a word expands to. -/
def Parameters.expand (parameters : Parameters) (word : Word) : List String :=
  if isAllArguments word then parameters.arguments
  else
    let expanded := (word.foldl parameters.expandPart {}).close
    expanded.done.map String.ofList

end CompilerFront.Host.Shell
