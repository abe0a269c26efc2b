import CompilerFront.Expr.Value
import CompilerFront.Front.Notes

/-!
Contract: carrying out an invocation.

Owns:
- `Backend` and `Collaborators`, all that a run reaches outside itself;
- `Invocation.run`, which shows what there is to show and ends with an exit code.

A backend is asked for only to evaluate or to build, the revision only for the version text.
-/

namespace CompilerFront

inductive Evaluated where
  | value (value : Expr.Value)
  | failure (message : String)
deriving DecidableEq, Repr

/-- Something that builds and evaluates; a build answers whether it succeeded. -/
structure Backend where
  build : Request → Discreet (Except BackendFault Bool)
  evaluate : String → Discreet (Except BackendFault Evaluated)

/-- What a run reaches outside itself, and the texts that it shows. -/
structure Collaborators where
  revision : Discreet (Option String)
  connect : Discreet (Except SettingsFault Backend)
  version : String
  help : String

/-- The version, with the revision on a line of its own when it is known. -/
def versionText (version : String) (revision : Option String) : String :=
  match revision with
  | some identifier => s!"{version}\ngit commit: {identifier}"
  | none => version

/-- What is said when options are given that an evaluation does not use. -/
def ignoredFlagsWarning : String := "ignoring build flags because --eval was given"

namespace Collaborators

def fail (fault : RunFault) : Journaled ExitCode := do
  Journaled.present (.error fault.message)
  return fault.exitCode

def withBackend (collaborators : Collaborators) (next : Backend → Journaled ExitCode) :
    Journaled ExitCode := do
  Journaled.write .connected
  match ← collaborators.connect with
  | .ok backend => next backend
  | .error fault => fail (.settings fault)

def runVersion (collaborators : Collaborators) : Journaled ExitCode := do
  let revision ← collaborators.revision
  if revision.isNone then
    Journaled.note .noRevision
  Journaled.present (.version (versionText collaborators.version revision))
  return .success

def runEvaluation (collaborators : Collaborators) (expression : String) : Journaled ExitCode :=
  collaborators.withBackend fun backend => do
    Journaled.write (.asked (.evaluate expression))
    match ← backend.evaluate expression with
    | .ok (.value value) =>
      Journaled.present (.value value.text)
      return .success
    | .ok (.failure message) =>
      Journaled.present (.error message)
      return .backendFailure
    | .error fault =>
      Journaled.note (.evaluatorFailed fault)
      Journaled.present (.error s!"evaluation error: {fault.message}")
      return .failure

def runBuild (collaborators : Collaborators) (request : Request) (mode : Mode) :
    Journaled ExitCode :=
  collaborators.withBackend fun backend => do
    Journaled.note (.startingBuild request mode)
    Journaled.write (.asked (.build request))
    match ← backend.build request with
    | .ok true => return .success
    | .ok false =>
      Journaled.note .failedBuild
      return .backendFailure
    | .error fault =>
      Journaled.note (.backendFailed fault)
      Journaled.present (.error s!"execution error: {fault.message}")
      return .failure

/-- Reports a combination of options that asks for nothing sensible. -/
def runUsageFault (collaborators : Collaborators) (fault : UsageFault) : Journaled ExitCode := do
  let code ← fail (.usage fault)
  Journaled.present (.usage collaborators.help)
  return code

end Collaborators

def Invocation.run (invocation : Invocation) (collaborators : Collaborators) :
    Journaled ExitCode := do
  Journaled.note (.resolved invocation.resolve)
  match invocation.resolve with
  | .help | .bare =>
    Journaled.present (.help collaborators.help)
    return .success
  | .version => collaborators.runVersion
  | .invalid fault => collaborators.runUsageFault fault
  | .evaluate expression =>
    if invocation.hasBuildFlags then
      Journaled.present (.warning ignoredFlagsWarning)
    collaborators.runEvaluation expression
  | .build mode => collaborators.runBuild (invocation.request mode) mode

end CompilerFront
