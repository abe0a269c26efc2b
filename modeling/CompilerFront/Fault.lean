import CompilerFront.Duration
import CompilerFront.Invocation.Resolution

/-!
Contract: why a run ends without the answer that was asked for.

Owns:
- refusals of the operating system and the texts it gives for them;
- faults of a backend and of the settings;
- `RunFault`, any of these or a usage fault, with its text and the exit code it leads to.
-/

namespace CompilerFront

/-! ## Exit codes -/

inductive ExitCode where
  | success
  | failure
  | usage
  | backendFailure
deriving DecidableEq, Repr

def ExitCode.number : ExitCode → Nat
  | .success => 0
  | .failure => 1
  | .usage => 2
  | .backendFailure => 30

/-! ## Refusals of the system -/

/-- The refusals of the operating system that a run can meet. -/
inductive SystemRefusal where
  | notFound
  | noChild
  | permissionDenied
  | notDirectory
  | isDirectory
  | nameTooLong
deriving DecidableEq, Repr

namespace SystemRefusal

def number : SystemRefusal → Nat
  | notFound => 2
  | noChild => 10
  | permissionDenied => 13
  | notDirectory => 20
  | isDirectory => 21
  | nameTooLong => 36

def reason : SystemRefusal → String
  | notFound => "No such file or directory"
  | noChild => "No child processes"
  | permissionDenied => "Permission denied"
  | notDirectory => "Not a directory"
  | isDirectory => "Is a directory"
  | nameTooLong => "File name too long"

def category : SystemRefusal → String
  | notFound => "NotFound"
  | noChild => "Uncategorized"
  | permissionDenied => "PermissionDenied"
  | notDirectory => "NotADirectory"
  | isDirectory => "IsADirectory"
  | nameTooLong => "InvalidFilename"

end SystemRefusal

inductive IoFault where
  | system (refusal : SystemRefusal)
  | notText
  | nulByte
  | described (text : String)
deriving DecidableEq, Repr

def IoFault.message : IoFault → String
  | .system refusal => s!"{refusal.reason} (os error {refusal.number})"
  | .notText => "stream did not contain valid UTF-8"
  | .nulByte => "nul byte found in provided data"
  | .described text => text

/-! ## Backends and settings -/

inductive BackendFault where
  | spawn (program : String) (source : IoFault)
  | io (context : String) (source : IoFault)
  | timeout (program : String) (limit : Duration)
  | terminated (program : String)
  | other (message : String)
deriving DecidableEq, Repr

def BackendFault.message : BackendFault → String
  | .spawn program source => s!"failed to start `{program}`: {source.message}"
  | .io context source => s!"{context}: {source.message}"
  | .timeout program limit => s!"`{program}` timed out after {limit.text}"
  | .terminated program => s!"`{program}` terminated abnormally"
  | .other message => message

inductive DocumentFault where
  | grammar
  | schema (message : String)
deriving DecidableEq, Repr

def DocumentFault.message : DocumentFault → String
  | .grammar => "the document is not well-formed"
  | .schema message => message

inductive SettingsFault where
  | io (source : IoFault)
  | document (fault : DocumentFault)
  | invalid (message : String)
deriving DecidableEq, Repr

def SettingsFault.message : SettingsFault → String
  | .io source => s!"io: {source.message}"
  | .document fault => s!"toml: {fault.message}"
  | .invalid message => s!"invalid config: {message}"

/-! ## Runs -/

inductive RunFault where
  | usage (fault : UsageFault)
  | backend (fault : BackendFault)
  | settings (fault : SettingsFault)
deriving DecidableEq, Repr

def RunFault.message : RunFault → String
  | .usage fault => fault.message
  | .backend fault => fault.message
  | .settings fault => s!"configuration error: {fault.message}"

def RunFault.exitCode : RunFault → ExitCode
  | .usage _ => .usage
  | .backend _ => .failure
  | .settings _ => .failure

end CompilerFront
