import CompilerFront.Program

/-!
Contract: surroundings that consist of a tree of files and a list of variables.

Owns:
- `World`, its files, its variables, and what the version control answers;
- `World.surroundings`, and the files after a run;
- worlds whose system forgets how children end.
-/

namespace CompilerFront.Host

structure World where
  files : Files := {}
  bindings : List (String × Text.Raw) := []
  lookup : RevisionLookup
  remembersChildren : Bool := true

namespace World

def raw? (world : World) (name : String) : Option Text.Raw :=
  (world.bindings.find? fun entry => entry.1 = name).map Prod.snd

/-- The values of variables; one that is no text counts as not set. -/
def environment (world : World) : Settings.Environment := fun name =>
  (world.raw? name).bind Text.Raw.toText?

def configRoot (world : World) : String :=
  Settings.configRoot world.environment ((world.environment "HOME").getD "")

/-- A child of which the system does not tell how it ended. -/
def forget (launch : Launch) : Launch :=
  match launch with
  | .refused source => .refused source
  | .started child => .started { child with fate := .lost (.system .noChild) }

def forgetLookup (lookup : RevisionLookup) : RevisionLookup :=
  match lookup with
  | .refused source => .refused source
  | .answered answer => .answered { answer with fate := .lost (.system .noChild) }

def surroundings (world : World) : Surroundings where
  read := world.files.readText
  environment := world.environment
  configRoot := some world.configRoot
  launch := fun command =>
    if world.remembersChildren then launch world.files command
    else forget (launch world.files command)
  lookup := if world.remembersChildren then world.lookup else forgetLookup world.lookup

/-- Notes are coloured unless a variable says otherwise. -/
def colouredNotes (world : World) : Bool :=
  ((world.environment "NO_COLOR").getD "").isEmpty

def run (world : World) (arguments : List Text.Raw) : Finished :=
  runProgram world.surroundings world.colouredNotes .none arguments

def filesAfter (world : World) (finished : Finished) : Files :=
  world.files.after finished.effects

end World

end CompilerFront.Host
