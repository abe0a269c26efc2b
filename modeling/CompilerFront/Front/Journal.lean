import CompilerFront.Request

/-!
Contract: what a run does, in order.

Owns:
- events, which are shown to the user; notes, which are for diagnosis; questions to a backend;
  and the effects of child processes;
- `Journaled`, a result together with the entries written on the way to it;
- `Discreet`, the same where nothing is shown and nothing asked, which is all that those who work
  for a run can be.

Does not own: how events and notes look on a terminal.
-/

namespace CompilerFront

inductive Event where
  | value (text : String)
  | version (text : String)
  | help (text : String)
  | usage (text : String)
  | warning (text : String)
  | error (text : String)
deriving DecidableEq, Repr

/-- The event goes to the standard output, not to the error output. -/
def Event.isAnswer : Event → Bool
  | .value _ | .version _ | .help _ => true
  | .usage _ | .warning _ | .error _ => false

inductive Severity where
  | debug
  | info
deriving DecidableEq, Repr

/-- A note for diagnosis: the part of the program it is from, its words, and named values. -/
structure Note where
  severity : Severity
  topic : String
  message : String
  fields : List (String × String) := []
deriving DecidableEq, Repr

inductive Question where
  | build (request : Request)
  | evaluate (expression : String)
deriving DecidableEq, Repr

inductive Effect where
  | output (text : String)
  | errorOutput (text : String)
  | wrote (path : String) (content : String)
deriving DecidableEq, Repr

inductive Entry where
  | shown (event : Event)
  | noted (note : Note)
  | connected
  | asked (question : Question)
  | effect (effect : Effect)
deriving DecidableEq, Repr

@[simp] def Entry.event? : Entry → Option Event
  | .shown event => some event
  | _ => none

@[simp] def Entry.question? : Entry → Option Question
  | .asked question => some question
  | _ => none

def Entry.effect? : Entry → Option Effect
  | .effect left => some left
  | _ => none

/-- The entry is an aside: neither the user nor a backend has part in it. -/
def Entry.isAside : Entry → Bool
  | .noted _ | .effect _ => true
  | .shown _ | .connected | .asked _ => false

/-- A result and what was done on the way to it, first things first. -/
structure Journaled (Result : Type) where
  result : Result
  entries : List Entry := []

namespace Journaled

protected def pure {Result : Type} (result : Result) : Journaled Result := ⟨result, []⟩

protected def bind {Before After : Type} (before : Journaled Before)
    (next : Before → Journaled After) : Journaled After :=
  ⟨(next before.result).result, before.entries ++ (next before.result).entries⟩

instance : Monad Journaled where
  pure := Journaled.pure
  bind := Journaled.bind

def write (entry : Entry) : Journaled Unit := ⟨(), [entry]⟩

@[simp] def present (event : Event) : Journaled Unit := write (.shown event)

@[simp] def note (note : Note) : Journaled Unit := write (.noted note)

@[simp] theorem result_pure {Result : Type} (result : Result) :
    (pure result : Journaled Result).result = result := rfl

@[simp] theorem entries_pure {Result : Type} (result : Result) :
    (pure result : Journaled Result).entries = [] := rfl

@[simp] theorem result_bind {Before After : Type} (before : Journaled Before)
    (next : Before → Journaled After) :
    (before >>= next).result = (next before.result).result := rfl

@[simp] theorem entries_bind {Before After : Type} (before : Journaled Before)
    (next : Before → Journaled After) :
    (before >>= next).entries = before.entries ++ (next before.result).entries := rfl

def events {Result : Type} (run : Journaled Result) : List Event :=
  run.entries.filterMap Entry.event?

def questions {Result : Type} (run : Journaled Result) : List Question :=
  run.entries.filterMap Entry.question?

def connects {Result : Type} (run : Journaled Result) : Nat :=
  run.entries.countP (· == .connected)

section Views

variable {Before After : Type} (before : Journaled Before) (next : Before → Journaled After)

@[simp] theorem events_bind :
    (before >>= next).events = before.events ++ (next before.result).events :=
  List.filterMap_append

@[simp] theorem questions_bind :
    (before >>= next).questions = before.questions ++ (next before.result).questions :=
  List.filterMap_append

@[simp] theorem connects_bind :
    (before >>= next).connects = before.connects + (next before.result).connects :=
  List.countP_append

end Views

@[simp] theorem events_pure {Result : Type} (result : Result) :
    (pure result : Journaled Result).events = [] := rfl

@[simp] theorem questions_pure {Result : Type} (result : Result) :
    (pure result : Journaled Result).questions = [] := rfl

@[simp] theorem connects_pure {Result : Type} (result : Result) :
    (pure result : Journaled Result).connects = 0 := rfl

@[simp] theorem events_write (entry : Entry) : (write entry).events = entry.event?.toList := by
  cases entry <;> rfl

@[simp] theorem questions_write (entry : Entry) :
    (write entry).questions = entry.question?.toList := by
  cases entry <;> rfl

@[simp] theorem connects_write (entry : Entry) :
    (write entry).connects = if entry = .connected then 1 else 0 := by
  cases entry <;> rfl

end Journaled

/-- A result with nothing but asides on the way to it. -/
structure Discreet (Result : Type) extends Journaled Result where
  asides : ∀ entry ∈ entries, entry.isAside = true

namespace Discreet

protected def pure {Result : Type} (result : Result) : Discreet Result :=
  ⟨⟨result, []⟩, fun _ member => nomatch member⟩

protected def bind {Before After : Type} (before : Discreet Before)
    (next : Before → Discreet After) : Discreet After :=
  ⟨before.toJournaled.bind fun result => (next result).toJournaled,
    List.forall_mem_append.mpr ⟨before.asides, (next before.result).asides⟩⟩

instance : Monad Discreet where
  pure := Discreet.pure
  bind := Discreet.bind

instance : MonadLift Discreet Journaled where
  monadLift := Discreet.toJournaled

@[simp] theorem result_pure {Result : Type} (result : Result) :
    (pure result : Discreet Result).result = result := rfl

@[simp] theorem result_bind {Before After : Type} (before : Discreet Before)
    (next : Before → Discreet After) :
    (before >>= next).result = (next before.result).result := rfl

def note (note : Note) : Discreet Unit :=
  ⟨Journaled.note note, List.forall_mem_singleton.mpr rfl⟩

section Lift

variable {Result : Type} (work : Discreet Result)

@[simp] theorem result_lift : (liftM work : Journaled Result).result = work.result := rfl

@[simp] theorem events_lift : (liftM work : Journaled Result).events = [] := by
  rw [Journaled.events, List.filterMap_eq_nil_iff]
  intro entry member
  have aside := work.asides entry member
  cases entry <;> first | rfl | cases aside

@[simp] theorem questions_lift : (liftM work : Journaled Result).questions = [] := by
  rw [Journaled.questions, List.filterMap_eq_nil_iff]
  intro entry member
  have aside := work.asides entry member
  cases entry <;> first | rfl | cases aside

@[simp] theorem connects_lift : (liftM work : Journaled Result).connects = 0 := by
  rw [Journaled.connects, List.countP_eq_zero]
  intro entry member
  have aside := work.asides entry member
  cases entry <;> first | exact Bool.false_ne_true | cases aside

end Lift

end Discreet

end CompilerFront
