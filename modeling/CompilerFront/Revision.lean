import CompilerFront.Backend.Child
import CompilerFront.Front.Notes
import CompilerFront.Text.Blank
import CompilerFront.Text.Raw

/-!
Contract: the revision that the version text names.

Owns:
- `RevisionLookup`, what asking the version control for it comes to;
- `RevisionLookup.revision`, which takes the answer only if it comes in time, from a command that
  succeeds, as well-formed text that is not blank.
-/

namespace CompilerFront

/-- The answer of the version control: how its command ended, when, and what it printed. -/
structure RevisionAnswer where
  fate : Fate
  lifetime : Duration
  printed : Text.Raw
deriving DecidableEq, Repr

inductive RevisionLookup where
  | refused (source : IoFault)
  | answered (answer : RevisionAnswer)
deriving DecidableEq, Repr

def revisionIn (printed : Text.Raw) : Option String :=
  match printed.toText? with
  | none => none
  | some text => if (Text.trim text).isEmpty then none else some (Text.trim text)

def RevisionLookup.revision (lookup : RevisionLookup) (limit : Duration) :
    Discreet (Option String) :=
  match lookup with
  | .refused source => do
    Discreet.note (.lookupFailed source)
    return none
  | .answered answer =>
    if answer.lifetime.within (some limit) then
      match answer.fate with
      | .exited 0 => return revisionIn answer.printed
      | .exited _ | .killed => return none
      | .lost source => do
        Discreet.note (.lookupFailed source)
        return none
    else do
      Discreet.note (.lookupTimedOut limit)
      return none

end CompilerFront
