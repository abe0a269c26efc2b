import CompilerFront.Invocation.Basic
import CompilerFront.Text.Lines
import CompilerFront.Text.Raw
import CompilerFront.Text.Sequences

/-!
Contract: how invocations are written as command-line arguments.

Owns:
- the flags and the options with a value, in their long and short forms;
- `Invocation.ofArguments`, which reads the arguments from left to right;
- the faults of a command line and their texts.

A value is attached to its option (`--config=v`, `-cv`, `-c=v`) or is the next argument. An option
is entered into the invocation only when the next one starts or the arguments end, so that a fault
of the next argument itself is reported before a fault of the option that waits.
-/

namespace CompilerFront

inductive Flag where
  | quiet
  | withDecompilation
  | func
  | check
  | version
  | help
deriving DecidableEq, Repr

inductive ValueOption where
  | config
  | project
  | eval
deriving DecidableEq, Repr

inductive Switch where
  | flag (flag : Flag)
  | valued (option : ValueOption)
deriving DecidableEq, Repr

def Flag.name : Flag → String
  | .quiet => "quiet"
  | .withDecompilation => "with-decompilation"
  | .func => "func"
  | .check => "check"
  | .version => "version"
  | .help => "help"

/-- The letter of a flag behind one hyphen, for the flags that have one. -/
def Flag.letter? : Flag → Option Char
  | .quiet => some 'q'
  | .version => some 'v'
  | .help => some 'h'
  | .withDecompilation | .func | .check => none

def ValueOption.name : ValueOption → String
  | .config => "config"
  | .project => "project"
  | .eval => "eval"

def ValueOption.letter : ValueOption → Char
  | .config => 'c'
  | .project => 'p'
  | .eval => 'e'

/-- What the value of an option is called in texts. -/
def ValueOption.placeholder : ValueOption → String
  | .config => "CONFIG"
  | .project => "NAME"
  | .eval => "EXPRESSION"

/-- The option keeps the next argument as its value even when that starts with a hyphen. -/
def ValueOption.takesHyphens : ValueOption → Bool
  | .eval => true
  | .config | .project => false

def Switch.display : Switch → String
  | .flag given => s!"--{given.name}"
  | .valued option => s!"--{option.name} <{option.placeholder}>"

def Switch.all : List Switch :=
  [.flag .quiet, .flag .withDecompilation, .flag .func, .flag .check, .flag .version, .flag .help,
    .valued .config, .valued .project, .valued .eval]

def Switch.name : Switch → String
  | .flag given => given.name
  | .valued option => option.name

def Switch.letter? : Switch → Option Char
  | .flag given => given.letter?
  | .valued option => some option.letter

def Switch.ofName? (name : String) : Option Switch :=
  Switch.all.find? fun switch => switch.name = name

def Switch.ofLetter? (letter : Char) : Option Switch :=
  Switch.all.find? fun switch => switch.letter? = some letter

/-! ## Faults -/

inductive ArgumentFault where
  | unknown (argument : String)
  | missingValue (option : ValueOption)
  | repeated (switch : Switch)
  | unneededValue (value : String) (flag : Flag)
  | illFormed
deriving DecidableEq, Repr

/-- The text of a command-line fault. What was given is shown without terminal sequences. -/
def ArgumentFault.message : ArgumentFault → String
  | .unknown argument =>
    s!"error: unexpected argument '{Text.withoutSequences argument}' found"
  | .missingValue option =>
    s!"error: a value is required for '{(Switch.valued option).display}' but none was supplied"
  | .repeated switch =>
    s!"error: the argument '{switch.display}' cannot be used multiple times"
  | .unneededValue value flag =>
    s!"error: unexpected value '{Text.withoutSequences value}' for " ++
      s!"'{(Switch.flag flag).display}' found; no more were expected"
  | .illFormed => "error: invalid UTF-8 was detected in one or more arguments"

def ArgumentFault.firstLine (fault : ArgumentFault) : String :=
  Text.firstLine fault.message

namespace Invocation

/-! ## Entering options -/

def isSet (invocation : Invocation) : Flag → Bool
  | .quiet => invocation.quiet
  | .withDecompilation => invocation.withDecompilation
  | .func => invocation.func
  | .check => invocation.check
  | .version => invocation.version
  | .help => invocation.help

def set (invocation : Invocation) : Flag → Invocation
  | .quiet => { invocation with quiet := true }
  | .withDecompilation => { invocation with withDecompilation := true }
  | .func => { invocation with func := true }
  | .check => { invocation with check := true }
  | .version => { invocation with version := true }
  | .help => { invocation with help := true }

/-- Enters a flag, which may be given once. -/
def enterFlag (invocation : Invocation) (flag : Flag) : Except ArgumentFault Invocation :=
  if invocation.isSet flag then .error (.repeated (.flag flag))
  else .ok (invocation.set flag)

/-- The text of a value. -/
def wellFormed (raw : Text.Raw) : Except ArgumentFault String :=
  match raw.toText? with
  | some text => .ok text
  | none => .error .illFormed

/-- Enters an option with its value; only the project option may be given again. -/
def enterValue (invocation : Invocation) (option : ValueOption) (raw : Text.Raw) :
    Except ArgumentFault Invocation :=
  match option with
  | .config =>
    if invocation.config.isSome then .error (.repeated (.valued .config))
    else (wellFormed raw).map fun value => { invocation with config := some value }
  | .eval =>
    if invocation.expression.isSome then .error (.repeated (.valued .eval))
    else (wellFormed raw).map fun value => { invocation with expression := some value }
  | .project =>
    (wellFormed raw).map fun value =>
      { invocation with projects := invocation.projects ++ [value] }

/-- Enters files behind those already there. -/
def enterFiles (invocation : Invocation) (raws : List Text.Raw) :
    Except ArgumentFault Invocation :=
  (raws.mapM wellFormed).map fun files =>
    { invocation with files := invocation.files ++ files }

/-! ## Reading arguments -/

/-- What has been read and is not yet entered. -/
inductive Pending where
  | nothing
  | awaiting (option : ValueOption)
  | holding (option : ValueOption) (value : Text.Raw)
  | files (values : List Text.Raw)
deriving DecidableEq, Repr

/-- The state of a reader between two arguments; the last file pending comes first. -/
structure Reader where
  invocation : Invocation
  pending : Pending
deriving DecidableEq, Repr

namespace Reader

def settle (reader : Reader) : Except ArgumentFault Invocation :=
  match reader.pending with
  | .nothing => .ok reader.invocation
  | .awaiting option => .error (.missingValue option)
  | .holding option value => reader.invocation.enterValue option value
  | .files values => reader.invocation.enterFiles values.reverse

def flag (reader : Reader) (given : Flag) : Except ArgumentFault Reader :=
  reader.settle.bind fun invocation =>
    (invocation.enterFlag given).map fun entered => ⟨entered, .nothing⟩

def attached (reader : Reader) (option : ValueOption) (value : Text.Raw) :
    Except ArgumentFault Reader :=
  reader.settle.bind fun invocation =>
    (invocation.enterValue option value).map fun entered => ⟨entered, .nothing⟩

def await (reader : Reader) (option : ValueOption) : Except ArgumentFault Reader :=
  reader.settle.map fun invocation => ⟨invocation, .awaiting option⟩

def file (reader : Reader) (value : Text.Raw) : Except ArgumentFault Reader :=
  match reader.pending with
  | .files values => .ok ⟨reader.invocation, .files (value :: values)⟩
  | _ => reader.settle.map fun invocation => ⟨invocation, .files [value]⟩

/-- Reads an argument with two hyphens: a name, and a value behind the first equals sign. -/
def long (reader : Reader) (body : Text.Raw) : Except ArgumentFault Reader :=
  let name := body.takeWhile (· != some '=')
  let value := body.dropWhile (· != some '=')
  match (Text.Raw.toText? name).bind Switch.ofName?, value with
  | some (.flag given), [] => reader.flag given
  | some (.flag given), _ :: rest => .error (.unneededValue (Text.Raw.shown rest) given)
  | some (.valued option), [] => reader.await option
  | some (.valued option), _ :: rest => reader.attached option rest
  | none, _ => .error (.unknown s!"--{Text.Raw.shown name}")

/-- Reads letters behind one hyphen: flags, up to an option that takes all the rest as its value. -/
def short (reader : Reader) (letters : Text.Raw) : Except ArgumentFault Reader :=
  match letters with
  | [] => .ok reader
  | none :: rest => .error (.unknown s!"-{Text.Raw.shown (none :: rest)}")
  | some letter :: rest =>
    match Switch.ofLetter? letter with
    | some (.flag given) => (reader.flag given).bind fun next => next.short rest
    | some (.valued option) =>
      match rest with
      | [] => reader.await option
      | some '=' :: value => reader.attached option value
      | value => reader.attached option value
    | none => .error (.unknown s!"-{String.singleton letter}")

def plain (reader : Reader) (argument : Text.Raw) : Except ArgumentFault Reader :=
  match reader.pending with
  | .awaiting option => .ok ⟨reader.invocation, .holding option argument⟩
  | _ => reader.file argument

/-- The next argument belongs to the option before it, whatever it looks like. -/
def keepsHyphens (reader : Reader) : Bool :=
  match reader.pending with
  | .awaiting option => option.takesHyphens
  | _ => false

/-- Reads one argument in front of the separator `--`. -/
def argument (reader : Reader) (raw : Text.Raw) : Except ArgumentFault Reader :=
  if reader.keepsHyphens then reader.plain raw
  else
    match raw with
    | some '-' :: some '-' :: body => reader.long body
    | some '-' :: first :: letters => reader.short (first :: letters)
    | other => reader.plain other

/-- Reads all arguments; behind a separator `--` all of them are files. -/
def arguments (reader : Reader) (raws : List Text.Raw) : Except ArgumentFault Reader :=
  match raws with
  | [] => .ok reader
  | raw :: rest =>
    if raw = [some '-', some '-'] ∧ reader.keepsHyphens = false then
      rest.foldlM file reader
    else
      (reader.argument raw).bind fun next => next.arguments rest

end Reader

/-- The invocation that arguments ask for. -/
def ofArguments (raws : List Text.Raw) : Except ArgumentFault Invocation :=
  (Reader.arguments ⟨{}, .nothing⟩ raws).bind Reader.settle

end Invocation

end CompilerFront
