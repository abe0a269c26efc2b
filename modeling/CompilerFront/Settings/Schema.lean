import CompilerFront.Duration
import CompilerFront.Settings.Node

/-!
Contract: which settings a document may give, and what they are when it does not.

Owns:
- `Settings`, with the built-in defaults as defaults of its fields;
- `Settings.ofFields`, which visits the fields of a document in order and stops at the first one
  that is unknown or has a value of the wrong type;
- the words for such fields.

A table may be given as an array: its elements are then the fields in the order of declaration.
-/

namespace CompilerFront.Settings

/-- How builds are run; zero seconds stand for no limit. -/
structure BackendSettings where
  command : String := "tact-compiler"
  arguments : List String := []
  timeoutSeconds : Nat := 0
deriving DecidableEq, Repr

structure RevisionSettings where
  timeoutMilliseconds : Nat := 2000
deriving DecidableEq, Repr

end CompilerFront.Settings

structure CompilerFront.Settings where
  backend : CompilerFront.Settings.BackendSettings := {}
  revision : CompilerFront.Settings.RevisionSettings := {}
deriving DecidableEq, Repr

namespace CompilerFront.Settings

def BackendSettings.limit (settings : BackendSettings) : Option Duration :=
  if 0 < settings.timeoutSeconds then some (.ofSeconds settings.timeoutSeconds) else none

/-- A timeout of zero switches the limit off. -/
theorem BackendSettings.limit_eq_none_iff {settings : BackendSettings} :
    settings.limit = none ↔ settings.timeoutSeconds = 0 := by
  rw [limit, ite_eq_right_iff, ← Nat.le_zero, ← Nat.not_lt]
  constructor
  · intro bounded positive
    cases bounded positive
  · intro unlimited positive
    exact absurd positive unlimited

/-- A limit is as many seconds as are given, and zero seconds are none. -/
theorem BackendSettings.limit_eq_some_iff {settings : BackendSettings} {bound : Duration} :
    settings.limit = some bound ↔
      settings.timeoutSeconds ≠ 0 ∧ bound.nanoseconds = settings.timeoutSeconds * 1000000000 := by
  obtain ⟨nanoseconds⟩ := bound
  rw [limit, Option.ite_none_right_eq_some, Option.some.injEq, Nat.pos_iff_ne_zero,
    Duration.ofSeconds, Duration.mk.injEq, eq_comm (a := nanoseconds)]

def RevisionSettings.limit (settings : RevisionSettings) : Duration :=
  .ofMilliseconds settings.timeoutMilliseconds

/-- The number counts milliseconds; here zero is a limit like any other. -/
theorem RevisionSettings.limit_eq (settings : RevisionSettings) :
    settings.limit = ⟨settings.timeoutMilliseconds * 1000000⟩ := rfl

/-! ## Faults -/

inductive SchemaFault where
  | unknownField (name : String) (known : List String)
  | wrongType (found : Node) (expected : String)
  | negative (number : Int)
deriving Repr

def alternatives (names : List String) : String :=
  match names.map fun name => "`" ++ name ++ "`" with
  | [single] => single
  | [first, second] => first ++ " or " ++ second
  | many => "one of " ++ String.intercalate ", " many

def SchemaFault.message : SchemaFault → String
  | .unknownField name known => s!"unknown field `{name}`, expected {alternatives known}"
  | .wrongType found expected => s!"invalid type: {found.description}, expected {expected}"
  | .negative number => s!"invalid value: integer `{number}`, expected u64"

/-! ## Values -/

def expectText : Node → Except SchemaFault String
  | .string text => .ok text
  | other => .error (.wrongType other "a string")

def expectTexts : Node → Except SchemaFault (List String)
  | .array elements => elements.mapM expectText
  | other => .error (.wrongType other "a sequence")

def expectCount : Node → Except SchemaFault Nat
  | .integer number => if number < 0 then .error (.negative number) else .ok number.toNat
  | other => .error (.wrongType other "u64")

/-- The key under which a date or time counts as a table. -/
def dateTimeKey : String := "$__toml_private_datetime"

def expectFields (title : String) (known : List String) : Node → Except SchemaFault Fields
  | .table fields => .ok fields
  | .array elements => .ok (known.zip elements)
  | .dateTime => .error (.unknownField dateTimeKey known)
  | other => .error (.wrongType other title)

/-! ## Tables -/

def backendKeys : List String := ["command", "args", "timeout_secs"]

def revisionKeys : List String := ["timeout_ms"]

def topKeys : List String := ["backend", "revision"]

def BackendSettings.enter (settings : BackendSettings) (field : String × Node) :
    Except SchemaFault BackendSettings :=
  match field.1 with
  | "command" => (expectText field.2).map fun command => { settings with command := command }
  | "args" =>
    (expectTexts field.2).map fun arguments => { settings with arguments := arguments }
  | "timeout_secs" =>
    (expectCount field.2).map fun seconds => { settings with timeoutSeconds := seconds }
  | other => .error (.unknownField other backendKeys)

def RevisionSettings.enter (settings : RevisionSettings) (field : String × Node) :
    Except SchemaFault RevisionSettings :=
  match field.1 with
  | "timeout_ms" =>
    (expectCount field.2).map fun milliseconds =>
      { settings with timeoutMilliseconds := milliseconds }
  | other => .error (.unknownField other revisionKeys)

def BackendSettings.ofNode (node : Node) : Except SchemaFault BackendSettings :=
  (expectFields "struct BackendConfig" backendKeys node).bind fun fields =>
    fields.foldlM BackendSettings.enter {}

def RevisionSettings.ofNode (node : Node) : Except SchemaFault RevisionSettings :=
  (expectFields "struct RevisionConfig" revisionKeys node).bind fun fields =>
    fields.foldlM RevisionSettings.enter {}

def enter (settings : Settings) (field : String × Node) :
    Except SchemaFault Settings :=
  match field.1 with
  | "backend" =>
    (BackendSettings.ofNode field.2).map fun backend => { settings with backend := backend }
  | "revision" =>
    (RevisionSettings.ofNode field.2).map fun revision => { settings with revision := revision }
  | other => .error (.unknownField other topKeys)

def ofFields (fields : Fields) : Except SchemaFault Settings :=
  fields.foldlM Settings.enter {}

end CompilerFront.Settings
