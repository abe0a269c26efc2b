import CompilerFront.Fault
import CompilerFront.Settings.Schema
import CompilerFront.Text.Blank

/-!
Contract: variables of the environment that override settings.

Owns:
- the names of the variables;
- `givenValue?`, for which blanks at the ends do not count and a blank variable is not set;
- `Settings.override`, which checks the variables in a fixed order.
-/

namespace CompilerFront.Settings

abbrev Environment : Type := String → Option String

def pathVariable : String := "TACT_CLI_CONFIG"

def commandVariable : String := "TACT_BACKEND"

def timeoutVariable : String := "TACT_BACKEND_TIMEOUT_SECS"

def revisionVariable : String := "TACT_REVISION_TIMEOUT_MS"

/-- The value of a variable without blanks at its ends, unless nothing is left. -/
def givenValue? (environment : Environment) (name : String) : Option String :=
  ((environment name).map Text.trim).filter fun value => !value.isEmpty

/-- A number below 2^64: decimal digits, with a plus before them or not. -/
def count? (text : String) : Option Nat :=
  let digits := match text.toList with
    | '+' :: rest => rest
    | all => all
  let number := digits.foldl (fun value digit => value * 10 + (digit.toNat - '0'.toNat)) 0
  if !digits.isEmpty && digits.all Char.isDigit && number < Nat.pow 2 64 then some number else none

/-- The number that a variable gives, when it is set. -/
def countVariable (environment : Environment) (name unit : String) :
    Except SettingsFault (Option Nat) :=
  match givenValue? environment name with
  | none => .ok none
  | some raw =>
    match count? raw with
    | some number => .ok (some number)
    | none =>
      .error (.invalid s!"invalid {name} value `{raw}`: expected non-negative integer {unit}")

def override (settings : Settings) (environment : Environment) :
    Except SettingsFault Settings :=
  let command := (givenValue? environment commandVariable).getD settings.backend.command
  (countVariable environment timeoutVariable "seconds").bind fun seconds =>
    (countVariable environment revisionVariable "milliseconds").map fun milliseconds =>
      { backend := {
          command := command
          arguments := settings.backend.arguments
          timeoutSeconds := seconds.getD settings.backend.timeoutSeconds }
        revision := {
          timeoutMilliseconds := milliseconds.getD settings.revision.timeoutMilliseconds } }

end CompilerFront.Settings
