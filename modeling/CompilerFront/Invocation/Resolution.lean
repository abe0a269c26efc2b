import CompilerFront.Invocation.Basic

/-!
Contract: what the program does for an invocation.

Owns:
- the compilation modes and the faults of a combination of options;
- `Invocation.resolve`, which asks a fixed row of questions and lets the first match win.
-/

namespace CompilerFront

/-- How a build compiles; `default` leaves the choice to the compiler. -/
inductive Mode where
  | default
  | checkOnly
  | funcOnly
  | fullWithDecompilation
deriving DecidableEq, Repr

/-- The mode as it is told to the compiler, which hears nothing of the default. -/
def Mode.selector : Mode → Option Mode
  | .default => none
  | other => some other

/-- Combinations of options that ask for nothing sensible. -/
inductive UsageFault where
  | bothConfigAndFile
  | conflictingModes
  | missingConfigOrFile
  | multipleFiles
deriving DecidableEq, Repr

def UsageFault.message : UsageFault → String
  | .bothConfigAndFile =>
    "Error: both config and Tact file can't be simultaneously specified, pick one!"
  | .conflictingModes =>
    "Error: flags --with-decompilation, --func and --check are mutually exclusive!"
  | .missingConfigOrFile => "Error: either config or Tact file have to be specified!"
  | .multipleFiles =>
    "Error: only one Tact file can be specified at a time. " ++
      "If you want to compile multiple contracts, use a config file"

inductive Resolution where
  | help
  | version
  | evaluate (expression : String)
  | invalid (fault : UsageFault)
  | bare
  | build (mode : Mode)
deriving DecidableEq, Repr

namespace Invocation

def modeFlagCount (invocation : Invocation) : Nat :=
  invocation.check.toNat + invocation.func.toNat + invocation.withDecompilation.toNat

/-- The invocation names something to compile. -/
def hasSource (invocation : Invocation) : Bool :=
  invocation.config.isSome || !invocation.files.isEmpty

def mode (invocation : Invocation) : Mode :=
  if invocation.check then .checkOnly
  else if invocation.func then .funcOnly
  else if invocation.withDecompilation then .fullWithDecompilation
  else .default

/-- The resolution of an invocation that asks neither for help, the version nor an evaluation. -/
def resolveBuild (invocation : Invocation) : Resolution :=
  if invocation.config.isSome && !invocation.files.isEmpty then .invalid .bothConfigAndFile
  else if 1 < invocation.modeFlagCount then .invalid .conflictingModes
  else if !invocation.hasSource && 0 < invocation.modeFlagCount then
    .invalid .missingConfigOrFile
  else if 1 < invocation.files.length then .invalid .multipleFiles
  else if !invocation.hasSource && invocation.projects.isEmpty then .bare
  else .build invocation.mode

/-- The resolution of an invocation: help, version and evaluation win over all else, in order. -/
def resolve (invocation : Invocation) : Resolution :=
  if invocation.help then .help
  else if invocation.version then .version
  else
    match invocation.expression with
    | some expression => .evaluate expression
    | none => invocation.resolveBuild

end Invocation

end CompilerFront
