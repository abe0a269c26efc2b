import CompilerFront.Front.Journal

/-!
Contract: how a note is written.

Owns:
- the line of a note, plain or coloured: severity, topic, words, and the named values in order.
-/

namespace CompilerFront

/-- The name of a severity, on five places. -/
def Severity.column : Severity → String
  | .debug => "DEBUG"
  | .info => " INFO"

def Severity.colour : Severity → String
  | .debug => "\x1b[34m"
  | .info => "\x1b[32m"

/-- The end of a colour or a weight. -/
def resetMark : String := "\x1b[0m"

def faint (text : String) : String := "\x1b[2m" ++ text ++ resetMark

def slanted (text : String) : String := "\x1b[3m" ++ text ++ resetMark

namespace Note

def plainLine (note : Note) : String :=
  note.severity.column ++ " " ++ note.topic ++ ": " ++ note.message ++
    String.join (note.fields.map fun field => " " ++ field.1 ++ "=" ++ field.2) ++ "\n"

def colouredLine (note : Note) : String :=
  note.severity.colour ++ note.severity.column ++ resetMark ++ " " ++ faint note.topic ++
    faint ":" ++ " " ++ note.message ++
    String.join (note.fields.map fun field => " " ++ slanted field.1 ++ faint "=" ++ field.2) ++
    "\n"

def line (note : Note) (coloured : Bool) : String :=
  if coloured then note.colouredLine else note.plainLine

end Note

end CompilerFront
