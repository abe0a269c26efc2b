/-!
Contract: what one command line asks for.

Owns:
- `Invocation`, with one field per option and the files in order;
- which options belong to builds.

Does not own: how options are written, nor which of them wins.
-/

namespace CompilerFront

@[ext] structure Invocation where
  config : Option String := none
  projects : List String := []
  quiet : Bool := false
  withDecompilation : Bool := false
  func : Bool := false
  check : Bool := false
  expression : Option String := none
  version : Bool := false
  help : Bool := false
  files : List String := []
deriving DecidableEq, Repr

/-- Some option was given that only builds use; being quiet is not one of them. -/
def Invocation.hasBuildFlags (invocation : Invocation) : Bool :=
  invocation.config.isSome || !invocation.projects.isEmpty || invocation.withDecompilation ||
    invocation.func || invocation.check || !invocation.files.isEmpty

end CompilerFront
