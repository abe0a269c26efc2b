import CompilerFront.Expr.Literal
import CompilerFront.Invocation.Arguments

/-!
Contract: command lines as options and files, each of which is entered for itself.

Owns:
- `Item`, an option or a file together with the form in which it is written;
- `Reader.take`, what a reader does with the arguments of an item, and `Settled`, which holds behind
  each of them;
- `ofArguments_commandLine`: a command line enters its items one after another and then the files
  behind the separator, whatever they are and wherever it goes wrong.

Does not own: which invocation this gives (`CompilerFront.Proofs.Arguments.RoundTrip`).

An option is entered only when the next one starts. `settle` enters what waits, so that the state
of a reader counts for no more than what it is settled to.
-/

namespace CompilerFront.Invocation

open Text (Raw)

/-! ## Items -/

/-- A text that starts with no hyphen, as no option does. -/
def Plain (text : String) : Prop := text.toList.head? ≠ some '-'

instance (text : String) : Decidable (Plain text) :=
  inferInstanceAs (Decidable (text.toList.head? ≠ some '-'))

/-- How an option is named: with two hyphens and its name, or with one hyphen and its letter. -/
inductive Form where
  | long
  | short
deriving DecidableEq, Repr

/-- Where the value of an option stands: attached to its name, or in the next argument. -/
inductive Place where
  | attached
  | next (form : Form)
deriving DecidableEq, Repr

/-- The value can stand there. In an argument of its own it must not look like an option, unless it
is an expression. -/
def Place.Fits (option : ValueOption) (value : String) : Place → Prop
  | .attached => True
  | .next _ => option = .eval ∨ Plain value

inductive Item where
  | flag (given : Flag) (form : Form)
  | valued (option : ValueOption) (value : String) (place : Place) (fits : place.Fits option value)
  | file (name : String) (plain : Plain name)

def longForm : Switch → String
  | .flag .quiet => "--quiet"
  | .flag .withDecompilation => "--with-decompilation"
  | .flag .func => "--func"
  | .flag .check => "--check"
  | .flag .version => "--version"
  | .flag .help => "--help"
  | .valued .config => "--config"
  | .valued .project => "--project"
  | .valued .eval => "--eval"

/-- The short form of an option, where it exists. -/
def shortForm? : Switch → Option String
  | .flag .quiet => some "-q"
  | .flag .version => some "-v"
  | .flag .help => some "-h"
  | .valued .config => some "-c"
  | .valued .project => some "-p"
  | .valued .eval => some "-e"
  | .flag .withDecompilation | .flag .func | .flag .check => none

/-- The argument that names an option; without a short form it is the long one. -/
def switchArgument (switch : Switch) : Form → String
  | .long => longForm switch
  | .short => (shortForm? switch).getD (longForm switch)

def Item.arguments : Item → List String
  | .flag given form => [switchArgument (.flag given) form]
  | .valued option value .attached _ => [longForm (.valued option) ++ "=" ++ value]
  | .valued option value (.next form) _ => [switchArgument (.valued option) form, value]
  | .file name _ => [name]

/-- The arguments of items and, if there is one, a separator with the files behind it. -/
def commandLine (items : List Item) (behind : Option (List String)) : List Raw :=
  (items.flatMap Item.arguments ++ behind.elim [] ("--" :: ·)).map Raw.ofText

def enter (invocation : Invocation) : Item → Except ArgumentFault Invocation
  | .flag given _ => invocation.enterFlag given
  | .valued option value _ _ => invocation.enterValue option (Raw.ofText value)
  | .file name _ => invocation.enterFiles [Raw.ofText name]

/-! ## Names and letters -/

theorem bind_eq_ok_iff {Fault Before After : Type} {next : Before → Except Fault After}
    {result : Except Fault Before} {after : After} :
    result.bind next = .ok after ↔ ∃ before, result = .ok before ∧ next before = .ok after := by
  cases result <;> simp [Except.bind]

theorem bind_assoc {Fault First Second Third : Type} (result : Except Fault First)
    (change : First → Except Fault Second) (next : Second → Except Fault Third) :
    (result.bind change).bind next = result.bind fun value => (change value).bind next := by
  cases result <;> rfl

theorem ofName?_name (switch : Switch) : Switch.ofName? switch.name = some switch := by
  cases switch with
  | flag given => cases given <;> decide
  | valued option => cases option <;> decide

/-- No two switches share a letter, so a short form is read as the switch that it was written
for. -/
theorem ofLetter?_letter {switch : Switch} {letter : Char} (has : switch.letter? = some letter) :
    Switch.ofLetter? letter = some switch := by
  cases switch with
  | flag given => cases given <;> cases has <;> decide
  | valued option => cases option <;> cases has <;> decide

/-- No name holds an equals sign, so that a name ends at the first one. -/
theorem split_name (switch : Switch) {rest : Raw} (ends : ∀ piece ∈ rest.head?, piece = some '=') :
    (Raw.ofText switch.name ++ rest).takeWhile (· != some '=') = Raw.ofText switch.name ∧
      (Raw.ofText switch.name ++ rest).dropWhile (· != some '=') = rest := by
  have named : ∀ piece ∈ Raw.ofText switch.name, (piece != some '=') = true := by
    cases switch with
    | flag given => cases given <;> decide
    | valued option => cases option <;> decide
  rw [List.takeWhile_append_of_pos named, List.dropWhile_append_of_pos named]
  cases rest with
  | nil => exact ⟨List.append_nil _, rfl⟩
  | cons piece others =>
    cases ends piece rfl
    exact ⟨List.append_nil _, rfl⟩

theorem ofText_append (left right : String) :
    Raw.ofText (left ++ right) = Raw.ofText left ++ Raw.ofText right := by
  simp only [Raw.ofText, String.toList_append, List.map_append]

theorem ofText_hyphens (body : String) :
    Raw.ofText ("--" ++ body) = some '-' :: some '-' :: Raw.ofText body :=
  ofText_append "--" body

theorem longForm_eq (switch : Switch) : longForm switch = "--" ++ switch.name := by
  cases switch with
  | flag given => cases given <;> decide
  | valued option => cases option <;> decide

/-- A short form is a hyphen and the letter of the option. -/
theorem letter_of_shortForm {switch : Switch} {short : String}
    (has : shortForm? switch = some short) :
    ∃ letter, switch.letter? = some letter ∧ Raw.ofText short = [some '-', some letter] ∧
      letter ≠ '-' := by
  cases switch with
  | flag given => cases given <;> cases has <;> exact ⟨_, rfl, rfl, by decide⟩
  | valued option => cases option <;> cases has <;> exact ⟨_, rfl, rfl, by decide⟩

theorem switchArgument_ne (switch : Switch) (form : Form) :
    Raw.ofText (switchArgument switch form) ≠ Raw.ofText "--" := by
  cases switch with
  | flag given => cases given <;> cases form <;> decide
  | valued option => cases option <;> cases form <;> decide

theorem attached_ne (option : ValueOption) (value : String) :
    Raw.ofText (longForm (.valued option) ++ "=" ++ value) ≠ Raw.ofText "--" := by
  intro same
  rw [longForm_eq, String.append_assoc, String.append_assoc, ofText_hyphens, ofText_append,
    ofText_append] at same
  have nothing := (List.cons.inj (List.cons.inj same).2).2
  have noEquals := (List.append_eq_nil_iff.mp (List.append_eq_nil_iff.mp nothing).2).1
  exact absurd noEquals (by decide)

/-- A value that does not begin with a hyphen is never mistaken for an option. -/
theorem ofText_ne_of_plain {text : String} (plain : Plain text) {rest : Raw} :
    Raw.ofText text ≠ some '-' :: rest := by
  intro shape
  have first := congrArg List.head? shape
  rw [Raw.ofText, List.head?_map, List.head?_cons, Option.map_eq_some_iff] at first
  obtain ⟨character, head, same⟩ := first
  exact plain (head.trans same)

namespace Reader

/-! ## Options -/

def start (reader : Reader) : Switch → Except ArgumentFault Reader
  | .flag given => reader.flag given
  | .valued option => reader.await option

/-- No value is awaited. -/
def Settled (reader : Reader) : Prop := ∀ option, reader.pending ≠ .awaiting option

section Options

variable {reader : Reader}

theorem long_name (switch : Switch) :
    reader.long (Raw.ofText switch.name) = reader.start switch := by
  obtain ⟨taken, left⟩ := split_name switch (show ∀ piece ∈ [].head?, piece = some '=' by simp)
  rw [List.append_nil] at taken left
  simp only [long, taken, left, Raw.toText?_ofText, Option.bind_some, ofName?_name]
  cases switch <;> rfl

/-- The name ends at the first `=`, since no name of an option holds one; the value may hold any
number of them. -/
theorem long_attached (option : ValueOption) (value : Raw) :
    reader.long (Raw.ofText option.name ++ some '=' :: value) = reader.attached option value := by
  obtain ⟨taken, left⟩ := split_name (.valued option)
    (show ∀ piece ∈ (some '=' :: value).head?, piece = some '=' by rintro _ ⟨⟩; rfl)
  rw [Switch.name] at taken left
  have named : Switch.ofName? option.name = some (.valued option) := ofName?_name (.valued option)
  simp only [long, taken, left, Raw.toText?_ofText, Option.bind_some, named]

theorem short_letter {switch : Switch} {letter : Char} (has : switch.letter? = some letter) :
    reader.short [some letter] = reader.start switch := by
  rw [short, ofLetter?_letter has]
  cases switch with
  | flag given =>
    show (reader.flag given).bind (fun next => .ok next) = reader.flag given
    cases reader.flag given <;> rfl
  | valued option => rfl

section Settled

variable (settled : reader.Settled)

include settled

theorem keepsHyphens_of_settled : reader.keepsHyphens = false := by
  obtain ⟨invocation, pending⟩ := reader
  cases pending with
  | nothing | holding | files => rfl
  | awaiting option => exact absurd rfl (settled option)

theorem argument_long (body : Raw) :
    reader.argument (some '-' :: some '-' :: body) = reader.long body := by
  rw [argument, keepsHyphens_of_settled settled]
  rfl

/-- An option is named by its name as well as by its letter. -/
theorem argument_switch (switch : Switch) (form : Form) :
    reader.argument (Raw.ofText (switchArgument switch form)) = reader.start switch := by
  have long : reader.argument (Raw.ofText (longForm switch)) = reader.start switch := by
    rw [longForm_eq, ofText_hyphens, argument_long settled, long_name]
  cases form with
  | long => exact long
  | short =>
    rw [switchArgument]
    cases has : shortForm? switch with
    | none => exact long
    | some short =>
      obtain ⟨letter, hasLetter, shape, noHyphen⟩ := letter_of_shortForm has
      rw [Option.getD_some, shape, argument, keepsHyphens_of_settled settled,
        ← short_letter hasLetter]
      · rfl
      · exact fun same => noHyphen (Option.some.inj same)

theorem argument_attached (option : ValueOption) (value : String) :
    reader.argument (Raw.ofText (longForm (.valued option) ++ "=" ++ value)) =
      reader.attached option (Raw.ofText value) := by
  rw [longForm_eq, String.append_assoc, String.append_assoc, ofText_hyphens, argument_long settled,
    ofText_append, ofText_append]
  exact long_attached option (Raw.ofText value)

end Settled

/-- What starts with no hyphen is read as it is. -/
theorem argument_plain {text : String} (plain : Plain text) :
    reader.argument (Raw.ofText text) = reader.plain (Raw.ofText text) := by
  rw [argument]
  · exact ite_self _
  · exact fun _ => ofText_ne_of_plain plain
  · exact fun _ _ => ofText_ne_of_plain plain

end Options

/-! ## Items -/

def take (reader : Reader) : Item → Except ArgumentFault Reader
  | .flag given _ => reader.flag given
  | .valued option value .attached _ => reader.attached option (Raw.ofText value)
  | .valued option value (.next _) _ =>
    reader.settle.map fun invocation => ⟨invocation, .holding option (Raw.ofText value)⟩
  | .file name _ => reader.file (Raw.ofText name)

section Items

variable {reader : Reader}

/-- Any argument but the separator is read for itself. -/
theorem arguments_cons {raw : Raw} (single : raw = Raw.ofText "--" → reader.keepsHyphens = true)
    (rest : List Raw) :
    reader.arguments (raw :: rest) = (reader.argument raw).bind (·.arguments rest) := by
  rw [arguments, if_neg]
  rintro ⟨isSeparator, noValue⟩
  rw [single isSeparator] at noValue
  cases noValue

theorem settled_of_file {value : Raw} {next : Reader} (read : reader.file value = .ok next) :
    next.Settled := by
  rw [file] at read
  split at read
  · cases read
    exact nofun
  · obtain ⟨before, -, rfl⟩ := Expr.map_eq_ok_iff.mp read
    exact nofun

/-- A reader that enters an option at once awaits no value. -/
theorem settled_of_entered {entering : Invocation → Except ArgumentFault Invocation} {next : Reader}
    (read : (reader.settle.bind fun invocation =>
      (entering invocation).map fun entered => ⟨entered, .nothing⟩) = .ok next) : next.Settled := by
  obtain ⟨before, -, done⟩ := bind_eq_ok_iff.mp read
  obtain ⟨after, -, rfl⟩ := Expr.map_eq_ok_iff.mp done
  exact nofun

/-- A reader that has taken an item awaits no value. -/
theorem settled_of_take {item : Item} {next : Reader} (taken : reader.take item = .ok next) :
    next.Settled := by
  cases item with
  | flag given form => exact settled_of_entered taken
  | valued option value place =>
    cases place with
    | attached => exact settled_of_entered taken
    | next form =>
      obtain ⟨before, -, rfl⟩ := Expr.map_eq_ok_iff.mp taken
      exact nofun
  | file name plain => exact settled_of_file taken

/-- Files that are entered together are entered one after another. -/
theorem enterFiles_append (invocation : Invocation) (earlier later : List Raw) :
    invocation.enterFiles (earlier ++ later) =
      (invocation.enterFiles earlier).bind (·.enterFiles later) := by
  simp only [enterFiles, List.mapM_append]
  cases earlier.mapM wellFormed with
  | error fault => rfl
  | ok first =>
    show (Except.map _ ((later.mapM wellFormed).bind fun second => .ok (first ++ second))) =
      (later.mapM wellFormed).map _
    cases later.mapM wellFormed with
    | error fault => rfl
    | ok second => simp only [Except.bind, Except.map, List.append_assoc]

/-- With no option waiting for its value, an argument that names no option is an input. -/
theorem plain_of_settled (settled : reader.Settled) (raw : Raw) :
    reader.plain raw = reader.file raw := by
  obtain ⟨invocation, pending⟩ := reader
  cases pending with
  | nothing | holding | files => rfl
  | awaiting option => exact absurd rfl (settled option)

theorem settle_file (settled : reader.Settled) (value : Raw) :
    (reader.file value).bind settle = reader.settle.bind (·.enterFiles [value]) := by
  obtain ⟨invocation, pending⟩ := reader
  cases pending with
  | files values =>
    show invocation.enterFiles (value :: values).reverse =
      (invocation.enterFiles values.reverse).bind _
    rw [List.reverse_cons, enterFiles_append]
  | nothing => rfl
  | holding option held =>
    show ((invocation.enterValue option held).map _).bind settle =
      (invocation.enterValue option held).bind _
    cases invocation.enterValue option held <;> rfl
  | awaiting option => exact absurd rfl (settled option)

theorem settle_entered (entering : Invocation → Except ArgumentFault Invocation) :
    (reader.settle.bind fun invocation =>
      (entering invocation).map fun entered => Reader.mk entered .nothing).bind settle =
        reader.settle.bind entering := by
  cases reader.settle with
  | error fault => rfl
  | ok invocation =>
    show ((entering invocation).map _).bind settle = entering invocation
    cases entering invocation <;> rfl

/-- The item is entered when the reader is settled. -/
theorem settle_take (settled : reader.Settled) (item : Item) :
    (reader.take item).bind settle = reader.settle.bind (·.enter item) := by
  cases item with
  | flag given form => exact settle_entered (·.enterFlag given)
  | valued option value place =>
    cases place with
    | attached => exact settle_entered (·.enterValue option (Raw.ofText value))
    | next form =>
      rw [take]
      cases reader.settle <;> rfl
  | file name plain => exact settle_file settled (Raw.ofText name)

/-- A value behind its option is read as it is. -/
theorem arguments_awaited {invocation : Invocation} {option : ValueOption} {value : String}
    (fits : option = .eval ∨ Plain value) (rest : List Raw) :
    Reader.arguments ⟨invocation, .awaiting option⟩ (Raw.ofText value :: rest) =
      Reader.arguments ⟨invocation, .holding option (Raw.ofText value)⟩ rest := by
  rcases fits with rfl | plain
  · have keepsNext : Reader.keepsHyphens ⟨invocation, .awaiting .eval⟩ = true := rfl
    rw [arguments_cons fun _ => keepsNext]
    unfold argument
    rw [if_pos keepsNext]
    rfl
  · rw [arguments_cons fun same => absurd same (ofText_ne_of_plain plain), argument_plain plain]
    rfl

/-- The arguments of an item are read as the item. -/
theorem arguments_item (settled : reader.Settled) (item : Item) (rest : List Raw) :
    reader.arguments (item.arguments.map Raw.ofText ++ rest) =
      (reader.take item).bind (·.arguments rest) := by
  cases item with
  | flag given form =>
    show reader.arguments (Raw.ofText (switchArgument (.flag given) form) :: rest) = _
    rw [arguments_cons fun same => absurd same (switchArgument_ne _ form), argument_switch settled]
    rfl
  | valued option value place fits =>
    cases place with
    | attached =>
      show reader.arguments (Raw.ofText (longForm (.valued option) ++ "=" ++ value) :: rest) = _
      rw [arguments_cons fun same => absurd same (attached_ne option value),
        argument_attached settled]
      rfl
    | next form =>
      show reader.arguments
        (Raw.ofText (switchArgument (.valued option) form) :: Raw.ofText value :: rest) = _
      rw [arguments_cons fun same => absurd same (switchArgument_ne _ form),
        argument_switch settled, start, await, take]
      cases reader.settle with
      | error fault => rfl
      | ok invocation => exact arguments_awaited fits rest
  | file name plain =>
    show reader.arguments (Raw.ofText name :: rest) = _
    rw [arguments_cons fun same => absurd same (ofText_ne_of_plain plain), argument_plain plain,
      plain_of_settled settled]
    rfl

end Items

/-! ## Command lines -/

section CommandLines

variable {reader : Reader}

/-- What is read in two steps is entered in two steps, if both are entered as they are read. -/
theorem settle_bind {first : Except ArgumentFault Reader}
    {second : Reader → Except ArgumentFault Reader}
    {enterFirst enterSecond : Invocation → Except ArgumentFault Invocation}
    (firstEntered : first.bind settle = reader.settle.bind enterFirst)
    (secondEntered : ∀ next, first = .ok next →
      (second next).bind settle = next.settle.bind enterSecond) :
    (first.bind second).bind settle =
      reader.settle.bind fun invocation => (enterFirst invocation).bind enterSecond := by
  rw [← bind_assoc, ← firstEntered]
  cases first with
  | error fault => rfl
  | ok next => exact secondEntered next rfl

/-- Behind the separator everything is a file. -/
theorem settle_foldlM_file (settled : reader.Settled) (values : List Raw) :
    (values.foldlM file reader).bind settle = reader.settle.bind (·.enterFiles values) := by
  induction values generalizing reader with
  | nil =>
    show reader.settle = _
    cases reader.settle with
    | error fault => rfl
    | ok invocation =>
      show Except.ok invocation = .ok { invocation with files := invocation.files ++ [] }
      rw [List.append_nil]
  | cons value others inductionHypothesis =>
    refine (settle_bind (settle_file settled value) fun next read =>
      inductionHypothesis (settled_of_file read)).trans ?_
    simp only [← enterFiles_append, List.singleton_append]

/-- The arguments of items enter these one after another, and then the files behind the
separator. -/
theorem settle_arguments (settled : reader.Settled) (items : List Item)
    (behind : Option (List String)) :
    (reader.arguments (commandLine items behind)).bind settle =
      reader.settle.bind fun invocation =>
        (items.foldlM enter invocation).bind
          (·.enterFiles ((behind.getD []).map Raw.ofText)) := by
  induction items generalizing reader with
  | nil =>
    cases behind with
    | none => exact settle_foldlM_file settled []
    | some files =>
      have separated : Raw.ofText "--" = [some '-', some '-'] ∧ reader.keepsHyphens = false :=
        ⟨rfl, keepsHyphens_of_settled settled⟩
      show (reader.arguments (Raw.ofText "--" :: files.map Raw.ofText)).bind settle = _
      rw [arguments, if_pos separated]
      exact settle_foldlM_file settled (files.map Raw.ofText)
  | cons item others inductionHypothesis =>
    have line : commandLine (item :: others) behind =
        item.arguments.map Raw.ofText ++ commandLine others behind := by
      simp only [commandLine, List.flatMap_cons, List.append_assoc, List.map_append]
    rw [line, arguments_item settled]
    refine (settle_bind (settle_take settled item) fun next taken =>
      inductionHypothesis (settled_of_take taken)).trans ?_
    refine congrArg reader.settle.bind (funext fun invocation => ?_)
    rw [List.foldlM_cons]
    exact (bind_assoc ..).symm

end CommandLines

end Reader

/-- A command line enters its items one after another, and then the files behind the separator. -/
theorem ofArguments_commandLine (items : List Item) (behind : Option (List String)) :
    ofArguments (commandLine items behind) =
      (items.foldlM enter {}).bind (·.enterFiles ((behind.getD []).map Raw.ofText)) := by
  have settled : Reader.Settled ⟨{}, .nothing⟩ := nofun
  exact Reader.settle_arguments settled items behind

end CompilerFront.Invocation
