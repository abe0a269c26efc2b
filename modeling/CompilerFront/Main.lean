import CompilerFront.Host.World

/-!
Contract: the command line.

Owns:
- gathering what a run can find: variables, and the files that settings and arguments name;
- printing what the run leaves behind, and writing the files that its backend wrote.

Does not own: any decision about the run, which is `runProgram` on the gathered world. Backends are
the programs of `CompilerFront.Host.Programs`, and no version control is asked.
-/

namespace CompilerFront.CommandLine

open Host (Files World)

/-- The variables that a run looks at. -/
def variableNames : List String :=
  ["HOME", "XDG_CONFIG_HOME", "NO_COLOR", notesVariable, Settings.pathVariable,
    Settings.commandVariable, Settings.timeoutVariable, Settings.revisionVariable]

def gatherVariables : IO (List (String × Text.Raw)) := do
  let given ← variableNames.mapM fun name => return (name, ← IO.getEnv name)
  return given.filterMap fun (name, value) =>
    value.map fun text => (name, Text.Raw.ofText text)

def readContent (path : String) : IO (Option Text.Raw) := do
  try
    let bytes ← IO.FS.readBinFile path
    return some (Text.Raw.decode (bytes.toList.map UInt8.toNat))
  catch _ => return none

def gatherFile (world : World) (path : String) : IO World := do
  if path.isEmpty then
    return world
  match ← readContent path with
  | some content => return { world with files := world.files.write path content }
  | none => return world

def settingsPaths (world : World) : List String :=
  [(Settings.givenValue? world.environment Settings.pathVariable).getD "", Settings.localFile,
    Settings.userFile world.configRoot]

def scriptPaths (world : World) : List String :=
  match world.surroundings.load.result with
  | .ok loaded => loaded.settings.backend.arguments
  | .error _ => []

def gatherWorld : IO World := do
  let bare : World := {
    bindings := ← gatherVariables
    lookup := .refused (.system .notFound) }
  let settled ← (settingsPaths bare).foldlM gatherFile bare
  (scriptPaths settled).foldlM gatherFile settled

/-- Warnings and errors are coloured on a terminal, unless a variable says otherwise. -/
def colouring (world : World) (isTerminal : Bool) : Colouring :=
  if isTerminal && ((world.environment "NO_COLOR").getD "").isEmpty then .full else .none

def writeEffect : Effect → IO Unit
  | .wrote path content => do
    try IO.FS.writeFile path content catch _ => return
  | .output _ | .errorOutput _ => return

def execute (arguments : List String) : IO UInt32 := do
  let world ← gatherWorld
  let output ← IO.getStdout
  let errorOutput ← IO.getStderr
  let finished := runProgram world.surroundings world.colouredNotes
    (colouring world (← errorOutput.isTty)) (arguments.map Text.Raw.ofText)
  output.putStr finished.standardOutput
  errorOutput.putStr finished.errorOutput
  finished.effects.forM writeEffect
  output.flush
  errorOutput.flush
  return UInt32.ofNat finished.exitCode.number

end CompilerFront.CommandLine

def main (arguments : List String) : IO UInt32 :=
  CompilerFront.CommandLine.execute arguments
