import CompilerFront.Fault
import CompilerFront.Front.Journal

/-!
Contract: what the system tells about a child process.

Owns:
- `Launch`: a child cannot be started, or it is started and has a `Child` record;
- `Child`: what became of the text sent to it and when, how it ended and when, and what it left
  behind;
- `Child.settled` and `Child.deadline`: when the outcome of a child is known, and when it is given
  up.
-/

namespace CompilerFront

/-- What became of the text sent to a child. -/
inductive Delivery where
  | complete
  | closed
  | failed (source : IoFault)
deriving DecidableEq, Repr

/-- How a child ended; a child that is lost ended without the system telling how. -/
inductive Fate where
  | exited (status : Nat)
  | killed
  | lost (source : IoFault)
deriving DecidableEq, Repr

/-- A child process, from its start to its end. Sending it a text comes to its end at `sent`, and
the child comes to its own at `lifetime`; effects are given with the time they happen at. All times
count from the start. -/
structure Child where
  delivery : Delivery
  sent : Duration
  fate : Fate
  lifetime : Duration
  effects : List (Duration × Effect)
deriving DecidableEq, Repr

inductive Launch where
  | refused (source : IoFault)
  | started (child : Child)
deriving DecidableEq, Repr

structure Command where
  program : String
  arguments : List String
  input : List Char
deriving DecidableEq, Repr

/-- A span ends before a limit; without a limit every span does. -/
def Duration.within (span : Duration) (limit : Option Duration) : Bool :=
  match limit with
  | some limit => span.nanoseconds < limit.nanoseconds
  | none => true

namespace Child

/-- When the outcome of a child is known. A text that cannot be sent is an outcome at once; behind
any other one the child is waited for. -/
def settled (child : Child) : Duration :=
  match child.delivery with
  | .failed _ => child.sent
  | .complete | .closed => ⟨max child.sent.nanoseconds child.lifetime.nanoseconds⟩

/-- When a child is given up, and with it all that it has not done by then: when its text cannot be
sent, and at the limit. -/
def deadline (child : Child) (limit : Option Duration) : Option Duration :=
  match child.delivery with
  | .failed _ => if child.sent.within limit then some child.sent else limit
  | .complete | .closed => limit

end Child

end CompilerFront
