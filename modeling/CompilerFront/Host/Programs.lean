import CompilerFront.Host.Shell

/-!
Contract: the small programs that a backend may be.

Owns:
- the programs that do not start others, by name;
- running a script command by command, with its redirections;
- `launch`, which finds a program, runs it to its end and tells what the system would.

Does not own: limits of time; a child is run to its end and its effects are dated.
-/

namespace CompilerFront.Host

/-- A child process while it runs. The last effect comes first. -/
structure Machine where
  files : Files
  input : List Char
  hasRead : Bool := false
  clock : Duration := ⟨0⟩
  effects : List (Duration × Effect) := []

inductive Sink where
  | output
  | errorOutput
  | file (path : String)
  | nowhere
deriving DecidableEq, Repr

inductive Progress where
  | goesOn (status : Nat)
  | ends (fate : Fate)
deriving DecidableEq, Repr

namespace Machine

def act (machine : Machine) (effect : Effect) : Machine :=
  { machine with effects := (machine.clock, effect) :: machine.effects }

def textOf (machine : Machine) (path : String) : String :=
  match machine.files.content? path with
  | .ok content => content.shown
  | .error _ => ""

def print (machine : Machine) (sink : Sink) (text : String) : Machine :=
  if text.isEmpty then machine
  else
    match sink with
    | .output => machine.act (.output text)
    | .errorOutput => machine.act (.errorOutput text)
    | .nowhere => machine
    | .file path =>
      let content := machine.textOf path ++ text
      { machine.act (.wrote path content) with
        files := machine.files.write path (Text.Raw.ofText content) }

def clear (machine : Machine) (path : String) : Machine :=
  { machine.act (.wrote path "") with files := machine.files.write path [] }

def takeInput (machine : Machine) : String × Machine :=
  (String.ofList machine.input, { machine with input := [], hasRead := true })

def takeLine (machine : Machine) : Option (String × Machine) :=
  if machine.input.isEmpty then none
  else
    some (String.ofList (machine.input.takeWhile (· != '\n')),
      { machine with
        input := (machine.input.dropWhile (· != '\n')).drop 1
        hasRead := true })

def wait (machine : Machine) (span : Duration) : Machine :=
  { machine with clock := ⟨machine.clock.nanoseconds + span.nanoseconds⟩ }

end Machine

/-! ## Programs that start no others -/

/-- The characters of a text in which a backslash starts an escape. -/
def unescape : List Char → List Char
  | '\\' :: 'n' :: rest => '\n' :: unescape rest
  | '\\' :: 't' :: rest => '\t' :: unescape rest
  | '\\' :: 'r' :: rest => '\r' :: unescape rest
  | '\\' :: '\\' :: rest => '\\' :: unescape rest
  | first :: rest => first :: unescape rest
  | [] => []

/-- One pass over a format: its text, and the arguments that are left. -/
def formatOnce : List Char → List String → List Char × List String
  | '%' :: '%' :: rest, arguments =>
    let (text, left) := formatOnce rest arguments
    ('%' :: text, left)
  | '%' :: letter :: rest, arguments =>
    let value := match letter, arguments.head? with
      | 'd', none => "0"
      | _, given => given.getD ""
    let (text, left) := formatOnce rest arguments.tail
    (value.toList ++ text, left)
  | first :: rest, arguments =>
    let (text, left) := formatOnce rest arguments
    (first :: text, left)
  | [], arguments => ([], arguments)

/-- A format is used again as long as arguments are left and it takes some. -/
def formatAll (steps : Nat) (format : List Char) (arguments : List String) : List Char :=
  match steps with
  | 0 => []
  | steps + 1 =>
    let (text, left) := formatOnce format arguments
    if left.isEmpty || left.length = arguments.length then text
    else text ++ formatAll steps format left

/-- The span of a number of seconds, which may have a fraction. -/
def secondsOf? (text : String) : Option Duration :=
  match text.splitOn "." with
  | [whole] => whole.toNat?.map Duration.ofSeconds
  | [whole, fraction] =>
    if fraction.isEmpty || 9 < fraction.length then none
    else
      (if whole.isEmpty then some 0 else whole.toNat?).bind fun seconds =>
        fraction.toNat?.map fun part =>
          ⟨seconds * 1000000000 + part * Nat.pow 10 (9 - fraction.length)⟩
  | _ => none

/-- The text of files in order, or nothing when one of them cannot be read. -/
def joinFiles (machine : Machine) (paths : List String) : Option String :=
  (paths.mapM fun path => (machine.files.content? path).toOption.map Text.Raw.shown).map String.join

/-- A command that compares texts succeeds with zero. -/
def testStatus : List String → Nat
  | [text] => if text.isEmpty then 1 else 0
  | ["-n", text] => if text.isEmpty then 1 else 0
  | ["-z", text] => if text.isEmpty then 0 else 1
  | [left, "=", right] => if left = right then 0 else 1
  | [left, "!=", right] => if left = right then 1 else 0
  | _ => 1

/-- Runs a program that starts no others; nothing when there is none with this name. -/
def runSimple (machine : Machine) (program : String) (arguments : List String) (out : Sink) :
    Option (Machine × Nat) :=
  match program, arguments with
  | "true", _ | ":", _ => some (machine, 0)
  | "false", _ => some (machine, 1)
  | "cat", [] | "cat", ["-"] =>
    let (text, rest) := machine.takeInput
    some (rest.print out text, 0)
  | "cat", paths =>
    match joinFiles machine paths with
    | some text => some (machine.print out text, 0)
    | none => some (machine, 1)
  | "echo", "-n" :: words =>
    some (machine.print out (String.ofList (unescape (String.intercalate " " words).toList)), 0)
  | "echo", words =>
    some (machine.print out
      (String.ofList (unescape (String.intercalate " " words).toList ++ ['\n'])), 0)
  | "printf", format :: values =>
    some (machine.print out
      (String.ofList (formatAll (values.length + 1) (unescape format.toList) values)), 0)
  | "printf", [] => some (machine, 2)
  | "sleep", spans =>
    match spans.mapM secondsOf? with
    | some (first :: others) => some ((first :: others).foldl Machine.wait machine, 0)
    | _ => some (machine, 1)
  | "test", words => some (machine, testStatus words)
  | "[", words => some (machine, testStatus words.dropLast)
  | _, _ => none

/-! ## Scripts -/

def endsProcess (signal : String) : Bool :=
  signal ∈ ["-1", "-2", "-3", "-4", "-6", "-8", "-9", "-11", "-13", "-14", "-15", "-HUP", "-INT",
    "-QUIT", "-ILL", "-ABRT", "-FPE", "-KILL", "-SEGV", "-PIPE", "-ALRM", "-TERM", "-SIGKILL",
    "-SIGTERM", "-SIGINT"]

def sinkOf (path : String) : Sink := if path = "/dev/null" then .nowhere else .file path

/-- The sinks of output and error output, with the machine after files are emptied. -/
def redirect (parameters : Shell.Parameters) (state : Machine × Sink × Sink)
    (redirection : Shell.Redirection) : Machine × Sink × Sink :=
  let (machine, out, err) := state
  let target := (parameters.expand redirection.target).headD ""
  match redirection.sign with
  | ['>'] =>
    let sink := sinkOf target
    (if sink = .nowhere then machine else machine.clear target, sink, err)
  | ['>', '>'] => (machine, sinkOf target, err)
  | ['2', '>'] =>
    let sink := sinkOf target
    (if sink = .nowhere then machine else machine.clear target, out, sink)
  | ['>', '&'] => (machine, if target = "2" then err else out, err)
  | ['2', '>', '&'] => (machine, out, if target = "1" then out else err)
  | ['<'] =>
    ({ machine with input := (machine.textOf target).toList, hasRead := true }, out, err)
  | _ => state

structure Running where
  machine : Machine
  parameters : Shell.Parameters
  ended : Option Fate := none

/-- The status that a word asks a script to end with. -/
def statusOfWord? (word : String) : Option Nat := word.toNat?.map fun number => number % 256

/-- Sends a signal; a script can reach itself alone. -/
def signalled (running : Running) (signal target : String) : Machine × Progress :=
  if target ≠ Shell.ownNumber then (running.machine, .goesOn 1)
  else if endsProcess signal then (running.machine, .ends .killed)
  else (running.machine, .goesOn 0)

def runCommand (running : Running) (words : List String) (out err : Sink) : Machine × Progress :=
  match words with
  | [] => (running.machine, .goesOn 0)
  | "exit" :: [] => (running.machine, .ends (.exited running.parameters.status))
  | "exit" :: word :: _ =>
    match statusOfWord? word with
    | some status => (running.machine, .ends (.exited status))
    | none =>
      (running.machine.print err s!"sh: 1: exit: Illegal number: {word}\n", .ends (.exited 2))
  | ["kill", target] => signalled running "-TERM" target
  | ["kill", "-s", name, target] => signalled running ("-" ++ name) target
  | ["kill", signal, target] => signalled running signal target
  | "exec" :: program :: arguments =>
    match runSimple running.machine program arguments out with
    | some (machine, status) => (machine, .ends (.exited status))
    | none =>
      (running.machine.print err s!"sh: 1: exec: {program}: not found\n", .ends (.exited 127))
  | program :: arguments =>
    match runSimple running.machine program arguments out with
    | some (machine, status) => (machine, .goesOn status)
    | none => (running.machine.print err s!"sh: 1: {program}: not found\n", .goesOn 127)

def readVariable (running : Running) (names : List String) : Running :=
  match running.machine.takeLine, names.filter (· ≠ "-r") with
  | some (line, machine), [name] =>
    { running with
      machine := machine
      parameters := { running.parameters with
        bindings := (name, line) :: running.parameters.bindings
        status := 0 } }
  | _, _ => { running with parameters := { running.parameters with status := 1 } }

/-- Runs one command of a script, when its condition holds. -/
def stepScript (running : Running) (step : Shell.Condition × Shell.SimpleCommand) : Running :=
  let (condition, command) := step
  let status := running.parameters.status
  let runs := match condition with
    | .always => true
    | .afterSuccess => status == 0
    | .afterFailure => status != 0
  if running.ended.isSome || !runs || (command.words.isEmpty && command.redirections.isEmpty) then
    running
  else
    let words := command.words.flatMap running.parameters.expand
    let (machine, out, err) :=
      command.redirections.foldl (redirect running.parameters)
        (running.machine, .output, .errorOutput)
    match words with
    | "read" :: names => readVariable { running with machine := machine } names
    | words =>
      match runCommand { running with machine := machine } words out err with
      | (after, .goesOn status) =>
        { running with
          machine := after
          parameters := { running.parameters with status := status } }
      | (after, .ends fate) => { running with machine := after, ended := some fate }

def runScript (machine : Machine) (name : String) (arguments : List String) (script : List Char) :
    Machine × Fate :=
  match Shell.parseScript script with
  | none =>
    (machine.print .errorOutput s!"{name}: 1: Syntax error\n", .exited 2)
  | some commands =>
    let running := commands.foldl stepScript ⟨machine, ⟨name, arguments, [], 0⟩, none⟩
    (running.machine, running.ended.getD (.exited running.parameters.status))

def runShell (machine : Machine) (arguments : List String) : Machine × Fate :=
  match arguments with
  | "-c" :: script :: rest =>
    runScript machine (rest.headD "sh") rest.tail script.toList
  | ["-c"] => (machine.print .errorOutput "sh: 0: -c requires an argument\n", .exited 2)
  | path :: rest =>
    match machine.files.content? path with
    | .ok content => runScript machine path rest content.shown.toList
    | .error _ =>
      (machine.print .errorOutput s!"sh: 0: cannot open {path}: No such file\n", .exited 2)
  | [] =>
    let (script, after) := machine.takeInput
    runScript after "sh" [] script.toList

/-! ## Starting programs -/

/-- The programs that are found by their names alone. -/
def knownPrograms : List String :=
  ["true", "false", "cat", "echo", "printf", "sleep", "test", "["]

/-- The name of a program without the directories that programs are kept in. -/
def programName (program : String) : String :=
  if program.startsWith "/bin/" then (program.drop 5).toString
  else if program.startsWith "/usr/bin/" then (program.drop 9).toString
  else program

def refusalOf (files : Files) (program : String) : SystemRefusal :=
  if program = "." ∨ program = ".." then .permissionDenied
  else if program.contains '/' then
    match files.node? program with
    | .ok _ => .permissionDenied
    | .error refusal => refusal
  else if FileNode.longestName < program.utf8ByteSize then .nameTooLong
  else .notFound

/-- A pipe holds this many bytes that nobody has read. -/
def pipeCapacity : Nat := 65536

/-- The record of a machine that has come to its end. A text that the pipe does not hold is on its
way until then, and the pipe is closed if nobody has read it. -/
def childOf (machine : Machine) (fate : Fate) (text : List Char) : Child :=
  let fits := (String.ofList text).utf8ByteSize ≤ pipeCapacity
  { delivery := if fits || machine.hasRead then .complete else .closed
    sent := if fits then ⟨0⟩ else machine.clock
    fate := fate
    lifetime := machine.clock
    effects := machine.effects.reverse }

def launch (files : Files) (command : Command) : Launch :=
  let machine : Machine := ⟨files, command.input, false, ⟨0⟩, []⟩
  let name := programName command.program
  if (command.program :: command.arguments).any fun text => text.contains '\x00' then
    .refused .nulByte
  else if name = "sh" ∨ name = "dash" then
    let (after, fate) := runShell machine command.arguments
    .started (childOf after fate command.input)
  else if name ∈ knownPrograms then
    match runSimple machine name command.arguments .output with
    | some (after, status) => .started (childOf after (.exited status) command.input)
    | none => .refused (.system .notFound)
  else .refused (.system (refusalOf files command.program))

def Files.after (files : Files) (effects : List Effect) : Files :=
  effects.foldl
    (fun files effect =>
      match effect with
      | .wrote path content => files.write path (Text.Raw.ofText content)
      | .output _ | .errorOutput _ => files)
    files

end CompilerFront.Host
