import CompilerFront.Backend.Process
import CompilerFront.Front.Help
import CompilerFront.Revision
import CompilerFront.Settings.Source
import CompilerFront.Host.Programs
import CompilerFront.Terminal.NoteFilter
import CompilerFront.Terminal.NoteLine
import CompilerFront.Terminal.Style

/-!
Contract: the whole program, from its arguments to its exit code and its outputs.

Owns:
- `Surroundings`, what the program finds: how files are read, variables, children, the revision;
- which settings are loaded when: for a backend when one is asked for, for the version text before
  anything else, and then their faults do no harm;
- `runProgram`, and what its two output streams receive.
-/

namespace CompilerFront

open Settings (Environment Loaded ReadText)

structure Surroundings where
  read : ReadText
  environment : Environment
  configRoot : Option String
  launch : Command → Launch
  lookup : RevisionLookup

namespace Surroundings

def load (surroundings : Surroundings) : Discreet (Except SettingsFault Loaded) :=
  Settings.load surroundings.read surroundings.environment surroundings.configRoot

def connect (surroundings : Surroundings) : Discreet (Except SettingsFault Backend) := do
  match ← surroundings.load with
  | .error fault => return .error fault
  | .ok loaded =>
    let backend := ProcessBackend.ofSettings loaded.settings.backend
    return .ok (backend.toBackend surroundings.launch)

/-- Once the settings load, the backend is fixed by its own part of them and by how its command
would behave. -/
theorem result_connect {surroundings : Surroundings} {loaded : Loaded}
    (loads : surroundings.load.result = .ok loaded) :
    surroundings.connect.result =
      .ok ((ProcessBackend.ofSettings loaded.settings.backend).toBackend surroundings.launch) := by
  rw [connect, Discreet.result_bind, loads]
  rfl

/-- The limit for the lookup of the revision; only the version text needs the settings for it. -/
def revisionLimit (surroundings : Surroundings) (resolution : Resolution) :
    Discreet Duration := do
  match resolution with
  | .version =>
    match ← surroundings.load with
    | .ok loaded => return loaded.settings.revision.limit
    | .error fault =>
      Discreet.note (.settingsUnavailable fault)
      return ({} : Settings.RevisionSettings).limit
  | _ => return ({} : Settings.RevisionSettings).limit

def collaborators (surroundings : Surroundings) (limit : Duration) : Collaborators where
  revision := surroundings.lookup.revision limit
  connect := surroundings.connect
  version := programVersion
  help := usageText

def carryOut (surroundings : Surroundings) (invocation : Invocation) : Journaled ExitCode := do
  let limit ← surroundings.revisionLimit invocation.resolve
  invocation.run (surroundings.collaborators limit)

end Surroundings

/-! ## Outputs -/

structure Presentation where
  filter : NoteFilter
  colouredNotes : Bool
  colouring : Colouring

def Entry.pieces (presentation : Presentation) : Entry → List (Channel × String)
  | .shown event => [event.rendered presentation.colouring]
  | .noted note =>
    if presentation.filter.allows note then
      [(.error, note.line presentation.colouredNotes)]
    else []
  | .effect (.output text) => [(.standard, text)]
  | .effect (.errorOutput text) => [(.error, text)]
  | .effect (.wrote _ _) | .connected | .asked _ => []

structure Finished where
  exitCode : ExitCode
  standardOutput : String
  errorOutput : String
  effects : List Effect
deriving DecidableEq, Repr

def notesVariable : String := "TACT_LOG"

def finish (presentation : Presentation) (run : Journaled ExitCode) : Finished :=
  let pieces := run.entries.flatMap (Entry.pieces presentation)
  { exitCode := run.result
    standardOutput := Channel.standard.collect pieces
    errorOutput := Channel.error.collect pieces
    effects := run.entries.filterMap Entry.effect? }

/-- Runs the program. A fault in its arguments is reported on one line and nothing else is done. -/
def runProgram (surroundings : Surroundings) (colouredNotes : Bool) (colouring : Colouring)
    (arguments : List Text.Raw) : Finished :=
  match Invocation.ofArguments arguments with
  | .error fault => ⟨.usage, "", fault.firstLine, []⟩
  | .ok invocation =>
    let filter := NoteFilter.forRun (surroundings.environment notesVariable) invocation.quiet
    finish ⟨filter, colouredNotes, colouring⟩ (surroundings.carryOut invocation)

end CompilerFront
