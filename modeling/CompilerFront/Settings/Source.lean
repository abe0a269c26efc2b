import CompilerFront.Front.Notes
import CompilerFront.Settings.Document
import CompilerFront.Settings.Override

/-!
Contract: where settings come from.

Owns:
- the sources in the order in which they are asked: a file named by a variable, the file in the
  working directory, the file of the user, the built-in defaults;
- `Settings.load`, which takes the text of exactly one source and never merges two.

A named file must be readable. The other two files may be missing; any other fault in reading one of
them ends the search.
-/

namespace CompilerFront.Settings

inductive Source where
  | explicit (path : String)
  | workingDirectory
  | user (path : String)
  | builtIn
deriving DecidableEq, Repr

structure Loaded where
  settings : Settings
  source : Source
deriving DecidableEq, Repr

abbrev ReadText : Type := String → Except IoFault String

def localFile : String := "tact-cli.toml"

/-- A name in a directory; the empty path is the working directory. -/
def joinPath (directory name : String) : String :=
  if directory.isEmpty || directory.toList.getLast? == some '/' then directory ++ name
  else directory ++ "/" ++ name

def userFile (root : String) : String := joinPath (joinPath root "tact") "cli.toml"

theorem joinPath_tact (directory : String) :
    joinPath (directory ++ "tact") "cli.toml" = directory ++ "tact/cli.toml" := by
  have named : (directory ++ "tact").toList = directory.toList ++ ['t', 'a', 'c', 't'] :=
    String.toList_append
  have written : (directory ++ "tact").isEmpty = false := by
    rw [String.isEmpty_eq_false_iff, ne_eq, ← String.toList_eq_nil_iff, named]
    simp
  rw [joinPath, named, written]
  simp [String.append_assoc]

/-- The file of the user lies two names below the configuration directory, whether or not a slash
ends the path of that. -/
theorem userFile_eq (root : String) :
    userFile root =
      if root = "" ∨ root.toList.getLast? = some '/' then root ++ "tact/cli.toml"
      else root ++ "/tact/cli.toml" := by
  have joined : joinPath root "tact" =
      (if root = "" ∨ root.toList.getLast? = some '/' then root else root ++ "/") ++ "tact" := by
    simp only [joinPath, Bool.or_eq_true, String.isEmpty_iff, beq_iff_eq]
    split
    · rfl
    · rfl
  rw [userFile, joined, joinPath_tact]
  split
  · rfl
  · rw [String.append_assoc]
    rfl

/-- The directory for configuration: a variable names it, or it is in the home directory. -/
def configRoot (environment : Environment) (home : String) : String :=
  (givenValue? environment "XDG_CONFIG_HOME").getD (joinPath home ".config")

def Source.label : Source → String
  | .explicit path => s!"Explicit({Text.quotedPath path})"
  | .workingDirectory => "Local"
  | .user path => s!"Global({Text.quotedPath path})"
  | .builtIn => "BuiltInDefaults"

def readIfPresent (read : ReadText) (path : String) :
    Discreet (Except SettingsFault (Option String)) :=
  match read path with
  | .ok text => return .ok (some text)
  | .error (.system .notFound) => return .ok none
  | .error fault => do
    Discreet.note (.unreadable path fault)
    return .error (.io fault)

/-- The text of the user's file, or the empty text of the defaults. -/
def readUserFile (read : ReadText) (root : Option String) :
    Discreet (Except SettingsFault (String × Source)) :=
  match root with
  | none => return .ok ("", .builtIn)
  | some directory => do
    match ← readIfPresent read (userFile directory) with
    | .error fault => return .error fault
    | .ok (some text) => return .ok (text, .user (userFile directory))
    | .ok none => return .ok ("", .builtIn)

def readSource (read : ReadText) (named : Option String) (root : Option String) :
    Discreet (Except SettingsFault (String × Source)) :=
  match named with
  | some path =>
    match read path with
    | .ok text => return .ok (text, .explicit path)
    | .error fault => return .error (.io fault)
  | none => do
    match ← readIfPresent read localFile with
    | .error fault => return .error fault
    | .ok (some text) => return .ok (text, .workingDirectory)
    | .ok none => readUserFile read root

def ofText (text : String) : Except SettingsFault Settings :=
  match parseDocument text with
  | none => .error (.document .grammar)
  | some fields =>
    match Settings.ofFields fields with
    | .ok settings => .ok settings
    | .error fault => .error (.document (.schema fault.message))

def emptyCommandMessage : String :=
  "backend.command is empty; set it in tact-cli.toml or via TACT_BACKEND"

def checked (settings : Settings) : Except SettingsFault Settings :=
  if (Text.trim settings.backend.command).isEmpty then .error (.invalid emptyCommandMessage)
  else .ok settings

def effective (text : String) (environment : Environment) :
    Except SettingsFault Settings :=
  (Settings.ofText text).bind fun settings =>
    (settings.override environment).bind Settings.checked

/-- Loads the settings of the one source that is chosen. -/
def load (read : ReadText) (environment : Environment) (root : Option String) :
    Discreet (Except SettingsFault Loaded) := do
  match ← readSource read (givenValue? environment pathVariable) root with
  | .error fault => return .error fault
  | .ok (text, source) =>
    match Settings.effective text environment with
    | .error fault => return .error fault
    | .ok settings =>
      Discreet.note (.settingsLoaded source.label settings.backend.command)
      return .ok ⟨settings, source⟩

end CompilerFront.Settings
