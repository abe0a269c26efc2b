import CompilerFront.Front.Journal

/-!
Contract: which notes are shown.

Owns:
- `Level`, `Directive` and their written forms;
- `NoteFilter.ofText?`, a row of directives with commas between them;
- `NoteFilter.allows`: of the directives whose topic starts the topic of a note, the one with the
  longest topic decides.
-/

namespace CompilerFront

/-- From which severity on notes are shown; the greater the number, the more of them. -/
inductive Level where
  | off
  | error
  | warn
  | info
  | debug
  | trace
deriving DecidableEq, Repr

def Level.rank : Level → Nat
  | .off => 0
  | .error => 1
  | .warn => 2
  | .info => 3
  | .debug => 4
  | .trace => 5

def Severity.level : Severity → Level
  | .debug => .debug
  | .info => .info

def Level.all : List Level := [.off, .error, .warn, .info, .debug, .trace]

def Level.name : Level → String
  | .off => "off"
  | .error => "error"
  | .warn => "warn"
  | .info => "info"
  | .debug => "debug"
  | .trace => "trace"

/-- The level that a word names, in letters of either case or by its number. -/
def Level.ofWord? (word : String) : Option Level :=
  Level.all.find? fun level => word.toLower = level.name || word = toString level.rank

/-- A level for all topics that start with a given one, or for all topics. -/
structure Directive where
  topic : Option String
  level : Level
deriving DecidableEq, Repr

def isTopicChar (character : Char) : Bool :=
  character.isAlphanum || character == '_' || character == ':' || character == '-'

/-- The directive that a text writes: a level, a topic, or a topic with a level behind a sign.
A topic without a level is shown in full. -/
def Directive.ofText? (text : String) : Option Directive :=
  match Level.ofWord? text with
  | some level => some ⟨none, level⟩
  | none =>
    let topic := text.toList.takeWhile isTopicChar
    if topic.isEmpty then none
    else
      match text.toList.dropWhile isTopicChar with
      | [] | ['='] => some ⟨some (String.ofList topic), .trace⟩
      | '=' :: word =>
        (Level.ofWord? (String.ofList word)).map fun level =>
          ⟨some (String.ofList topic), level⟩
      | _ => none

/-- Directives in the order in which they are written. -/
abbrev NoteFilter : Type := List Directive

namespace NoteFilter

def ofLevel (level : Level) : NoteFilter := [⟨none, level⟩]

/-- The filter that a text writes; one without directives shows errors only. -/
def ofText? (text : String) : Option NoteFilter :=
  let words := (text.splitOn ",").filter fun word => !word.isEmpty
  if words.isEmpty then some (ofLevel .error) else words.mapM Directive.ofText?

def defaultLevel (quiet : Bool) : Level := if quiet then .error else .warn

/-- The filter of a run, given the text that asks for one. -/
def forRun (asked : Option String) (quiet : Bool) : NoteFilter :=
  (asked.bind ofText?).getD (ofLevel (defaultLevel quiet))

/-- How long the topic of a directive is that matches a topic; one for all topics counts as zero. -/
def matchLength? (topic : String) (directive : Directive) : Option Nat :=
  match directive.topic with
  | none => some 0
  | some start => if topic.startsWith start then some (start.utf8ByteSize + 1) else none

/-- The level that decides for a topic; of two directives for one topic the later one counts. -/
def levelFor (filter : NoteFilter) (topic : String) : Level :=
  (filter.foldl
    (fun best directive =>
      match matchLength? topic directive with
      | some length => if best.1 ≤ length then (length, directive.level) else best
      | none => best)
    (0, Level.off)).2

def allows (filter : NoteFilter) (note : Note) : Bool :=
  note.severity.level.rank ≤ (filter.levelFor note.topic).rank

end NoteFilter

end CompilerFront
