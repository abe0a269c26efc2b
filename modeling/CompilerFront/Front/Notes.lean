import CompilerFront.Fault
import CompilerFront.Front.Journal
import CompilerFront.Text.Quoted

/-!
Contract: the notes that a run can write.

Owns:
- one constructor function per note, with its topic, words and named values;
- how resolutions and faults are shown in notes.
-/

namespace CompilerFront

def Mode.label : Mode → String
  | .default => "Default"
  | .checkOnly => "CheckOnly"
  | .funcOnly => "FuncOnly"
  | .fullWithDecompilation => "FullWithDecompilation"

def UsageFault.label : UsageFault → String
  | .bothConfigAndFile => "BothConfigAndFile"
  | .conflictingModes => "ConflictingModes"
  | .missingConfigOrFile => "MissingConfigOrFile"
  | .multipleFiles => "MultipleFiles"

def Resolution.label : Resolution → String
  | .help => "Help"
  | .version => "Version"
  | .evaluate expression => s!"Evaluate({Text.quoted expression})"
  | .invalid fault => s!"Invalid({fault.label})"
  | .bare => "Bare"
  | .build mode => s!"Build({mode.label})"

def IoFault.label : IoFault → String
  | .system refusal =>
    "Os \x7b code: " ++ toString refusal.number ++ ", kind: " ++ refusal.category ++
      ", message: " ++ Text.quoted refusal.reason ++ " \x7d"
  | .notText =>
    "Error \x7b kind: InvalidData, message: " ++ Text.quoted (IoFault.message .notText) ++ " \x7d"
  | .nulByte =>
    "Error \x7b kind: InvalidInput, message: " ++ Text.quoted (IoFault.message .nulByte) ++ " \x7d"
  | .described text =>
    "Custom \x7b kind: Other, error: " ++ Text.quoted text ++ " \x7d"

def BackendFault.label : BackendFault → String
  | .spawn program source =>
    "Spawn \x7b program: " ++ Text.quoted program ++ ", source: " ++ source.label ++ " \x7d"
  | .io context source =>
    "Io \x7b context: " ++ Text.quoted context ++ ", source: " ++ source.label ++ " \x7d"
  | .timeout program limit =>
    "Timeout \x7b program: " ++ Text.quoted program ++ ", limit: " ++ limit.text ++ " \x7d"
  | .terminated program => "Terminated(" ++ Text.quoted program ++ ")"
  | .other message => "Other(" ++ Text.quoted message ++ ")"

namespace Note

def resolved (resolution : Resolution) : Note :=
  ⟨.debug, "tact_cli::app", "resolved invocation", [("resolution", resolution.label)]⟩

def noRevision : Note :=
  ⟨.debug, "tact_cli::app::version", "no source revision available", []⟩

def startingBuild (request : Request) (mode : Mode) : Note :=
  ⟨.info, "tact_cli::app::exec", "starting build",
    [("file", Text.quotedOption request.fileName),
      ("config", Text.quotedOption request.configPath), ("mode", mode.label)]⟩

/-- The backend says that the build failed. -/
def failedBuild : Note :=
  ⟨.debug, "tact_cli::app::exec", "backend reported a failed build", []⟩

/-- The backend itself failed in a build. -/
def backendFailed (fault : BackendFault) : Note :=
  ⟨.debug, "tact_cli::app::exec", "backend failed", [("err", fault.label)]⟩

/-- The backend itself failed in an evaluation. -/
def evaluatorFailed (fault : BackendFault) : Note :=
  ⟨.debug, "tact_cli::app::exec", "evaluator failed", [("err", fault.label)]⟩

def spawning (command : String) (arguments : List String) : Note :=
  ⟨.debug, "tact_cli::backend::process", "spawning backend",
    [("command", command), ("args", Text.quotedList arguments)]⟩

/-- A backend process stopped reading before it had the whole request. -/
def closedInput : Note :=
  ⟨.debug, "tact_cli::backend::process", "backend closed stdin before reading the request", []⟩

def exited (status : Nat) : Note :=
  ⟨.debug, "tact_cli::backend::process", "backend exited", [("code", toString status)]⟩

/-- A settings file is there and cannot be read. -/
def unreadable (path : String) (fault : IoFault) : Note :=
  ⟨.debug, "tact_cli::config::sources", "settings file unreadable",
    [("path", path), ("err", fault.message)]⟩

def settingsLoaded (source command : String) : Note :=
  ⟨.debug, "tact_cli::config", "settings loaded", [("source", source), ("backend", command)]⟩

/-- Settings cannot be loaded, and the version text does without them. -/
def settingsUnavailable (fault : SettingsFault) : Note :=
  ⟨.debug, "tact", "settings unavailable; using default revision timeout",
    [("err", fault.message)]⟩

def lookupFailed (fault : IoFault) : Note :=
  ⟨.debug, "tact_cli::revision", "git revision lookup failed", [("err", fault.message)]⟩

def lookupTimedOut (limit : Duration) : Note :=
  ⟨.debug, "tact_cli::revision", "git revision lookup timed out", [("timeout", limit.text)]⟩

end Note

end CompilerFront
