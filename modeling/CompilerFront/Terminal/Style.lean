import CompilerFront.Front.Journal
import CompilerFront.Text.Lines

/-!
Contract: how events look on a terminal.

Owns:
- the two output streams;
- `Event.rendered`, the stream that an event goes to and the text it becomes there.

Answers end in exactly one line feed; warnings and errors get one more than they have, and may be
coloured.
-/

namespace CompilerFront

inductive Channel where
  | standard
  | error
deriving DecidableEq, Repr

/-- How warnings and errors are coloured.

With `muted` the places of colours are marked and the colours themselves are left out. -/
inductive Colouring where
  | none
  | muted
  | full
deriving DecidableEq, Repr

/-- The colouring that is asked for, given the value of `NO_COLOR`. -/
def Colouring.requested (colour : Bool) (noColor : Option String) : Colouring :=
  if colour then
    if (noColor.getD "").isEmpty then .full else .muted
  else .none

namespace Colouring

def error (colouring : Colouring) (text : String) : String :=
  match colouring with
  | .none => text
  | .muted => "\x1b[m\x1b[1m" ++ text ++ "\x1b[0m"
  | .full => "\x1b[38;5;9m\x1b[1m" ++ text ++ "\x1b[0m"

def warning (colouring : Colouring) (text : String) : String :=
  match colouring with
  | .none => text
  | .muted => "\x1b[m" ++ text ++ "\x1b[m"
  | .full => "\x1b[38;5;11m" ++ text ++ "\x1b[39m"

end Colouring

/-- The stream that an event goes to and what is written there. -/
def Event.rendered (event : Event) (colouring : Colouring) : Channel × String :=
  match event with
  | .value text | .version text | .help text => (.standard, Text.line text)
  | .usage text => (.error, Text.line text)
  | .warning text => (.error, colouring.warning text ++ "\n")
  | .error text => (.error, colouring.error text ++ "\n")

def Channel.collect (channel : Channel) (pieces : List (Channel × String)) : String :=
  String.join ((pieces.filter fun piece => piece.1 = channel).map Prod.snd)

end CompilerFront
