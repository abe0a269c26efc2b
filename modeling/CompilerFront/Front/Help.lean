import CompilerFront.Invocation.Arguments

/-!
Contract: the fixed texts of the program.

Owns:
- the version of the program;
- the usage text, whose rows of options are aligned in one column.
-/

namespace CompilerFront

def programVersion : String := "1.6.0"

def Switch.purpose : Switch → String
  | .valued .config => "Path to the project config file"
  | .valued .project => "Build only the named project(s) from the config file. Repeatable"
  | .flag .quiet => "Suppress compiler log output"
  | .flag .withDecompilation => "Compile, then decompile the produced code"
  | .flag .func => "Emit intermediate FunC code only"
  | .flag .check => "Perform syntax and type checking only"
  | .valued .eval => "Evaluate a constant expression and exit"
  | .flag .version => "Print the version and exit"
  | .flag .help => "Print this help and exit"

def Switch.listed : List Switch :=
  [.valued .config, .valued .project, .flag .quiet, .flag .withDecompilation, .flag .func,
    .flag .check, .valued .eval, .flag .version, .flag .help]

/-- The forms of an option, the short one first; its place stays free when there is none. -/
def Switch.forms (switch : Switch) : String :=
  match switch.letter? with
  | some letter => s!"  -{String.singleton letter}, {switch.display}"
  | none => s!"      {switch.display}"

def purposeColumn : Nat := 28

def Switch.row (switch : Switch) : String :=
  switch.forms ++ String.ofList (List.replicate (purposeColumn - switch.forms.length) ' ') ++
    switch.purpose

def usageText : String :=
  String.intercalate "\n"
    (["Compile Tact contracts, check them, or evaluate constant expressions.", "",
        "Usage: tact [OPTIONS] [FILE]...", "", "Arguments:",
        "  [FILE]...  Tact source file to compile", "", "Options:"] ++
      Switch.listed.map Switch.row ++
      ["", "Examples:", "  tact --version", "  tact --config ./tact.config.json --project main",
        "  tact --check ./contract.tact", "  tact -e '(1 + 2) * 3'", ""])

end CompilerFront
