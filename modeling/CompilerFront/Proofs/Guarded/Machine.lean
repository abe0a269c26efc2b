/-!
Contract: programs whose partial operations are explicit.

Owns:
- `Breach`, the ways in which an operation that is not defined everywhere is misused;
- `Machine`, programs on a mutable state that may run forever, be breached, or end;
- `Runs`, by which a program ends, unbreached, with a result and a state, and one lemma for each
  way of composing programs; loops are those of `repeatM`.

A program that reports faults of its input has them in its result, so that the state behind a
fault is the one that the fault was found in.
-/

namespace CompilerFront.Expr.Guarded

/-- The misuses of operations that are not defined everywhere: an index moved beyond the end, a
slice or an element that is not there, a counter below zero or above the largest machine integer, a
recursion below the last level, an operator in a place where none of its kind comes, a shift by the
width of an integer or more, a division that has no quotient, unchecked arithmetic out of range, a
radix without digits. -/
inductive Breach where
  | indexBeyondEnd
  | sliceOutOfBounds
  | elementMissing
  | underflow
  | overflow
  | recursion
  | unreachable
  | shiftAmount
  | division
  | arithmetic
  | radix
deriving DecidableEq, Repr

/-- A program on a mutable state. -/
abbrev Machine (State Result : Type) : Type := StateT State (ExceptT Breach Option) Result

namespace Machine

variable {State Fault Result Next : Type}

/-- A program that stops with a breach unless a condition holds. -/
def require (condition : Prop) [Decidable condition] (breach : Breach) : Machine State Unit :=
  if condition then pure () else throw breach

/-- A program that goes on with a result and stops at a fault. -/
def andThen (first : Machine State (Except Fault Result))
    (next : Result → Machine State (Except Fault Next)) : Machine State (Except Fault Next) :=
  bind first fun
    | .error fault => pure (.error fault)
    | .ok result => next result

/-- In a turn of a loop: goes on with a result, and ends the loop at a fault. -/
def orEnd {Carried : Type} (first : Machine State (Except Fault Result))
    (next : Result → Machine State (Carried ⊕ Except Fault Next)) :
    Machine State (Carried ⊕ Except Fault Next) :=
  bind first fun
    | .error fault => pure (.inr (.error fault))
    | .ok result => next result

/-- A computation without state as a program. -/
def ofChecked (computation : Except Breach Result) : Machine State Result :=
  match computation with
  | .ok result => pure result
  | .error breach => throw breach

end Machine

/-- `Runs program before result after`: from a state, the program ends with a result and a state. A
breach is no such end, so a run says that every guard on its way holds. -/
def Runs {State Result : Type} (program : Machine State Result) (before : State) (result : Result)
    (after : State) : Prop :=
  program.run before = pure (result, after)

section Runs

variable {State Fault Result Next : Type} {before middle after : State}

theorem runs_pure (result : Result) : Runs (pure result) before result before := rfl

theorem runs_get : Runs (get : Machine State State) before before before := rfl

theorem runs_set : Runs (set after : Machine State Unit) before () after := rfl

/-- Behind a program that ends, only what follows it is left. -/
theorem runs_bind_iff {first : Machine State Result} {next : Result → Machine State Next}
    {result : Result} {final : Next} (firstRuns : Runs first before result middle) :
    Runs (first >>= next) before final after ↔ Runs (next result) middle final after := by
  rw [Runs, StateT.run_bind, firstRuns, pure_bind]
  exact Iff.rfl

/-- Runs are put together at the state in between; with this rule no proof has to open the monad. -/
theorem runs_bind {first : Machine State Result} {next : Result → Machine State Next}
    {result : Result} {final : Next} (firstRuns : Runs first before result middle)
    (nextRuns : Runs (next result) middle final after) :
    Runs (first >>= next) before final after :=
  (runs_bind_iff firstRuns).mpr nextRuns

/-- A program that ends has ended its first part. -/
theorem exists_runs_of_bind {first : Machine State Result} {next : Result → Machine State Next}
    {final : Next} (runs : Runs (first >>= next) before final after) :
    ∃ result middle, Runs first before result middle ∧ Runs (next result) middle final after := by
  rw [Runs, StateT.run_bind] at runs
  have outcome := congrArg ExceptT.run runs
  rw [ExceptT.run_bind] at outcome
  cases firstOutcome : (first.run before).run with
  | none =>
    rw [firstOutcome] at outcome
    cases outcome
  | some ended =>
    rw [firstOutcome] at outcome
    cases ended with
    | error breach => cases outcome
    | ok reached => exact ⟨reached.1, reached.2, firstOutcome, outcome⟩

theorem runs_require {condition : Prop} [Decidable condition] {breach : Breach}
    (holds : condition) : Runs (Machine.require condition breach) before () before := by
  rw [Machine.require, if_pos holds]
  exact runs_pure ()

theorem runs_andThen {first : Machine State (Except Fault Result)}
    {next : Result → Machine State (Except Fault Next)} {result : Result}
    {final : Except Fault Next} (firstRuns : Runs first before (.ok result) middle)
    (nextRuns : Runs (next result) middle final after) :
    Runs (first.andThen next) before final after :=
  runs_bind firstRuns nextRuns

/-- A fault of the program is an ordinary result of the machine: what follows is skipped, and the
state stays as it was left. -/
theorem runs_andThen_fault {first : Machine State (Except Fault Result)}
    {next : Result → Machine State (Except Fault Next)} {fault : Fault}
    (firstRuns : Runs first before (.error fault) after) :
    Runs (first.andThen next) before (.error fault) after :=
  runs_bind firstRuns (runs_pure _)

theorem runs_orEnd {Carried : Type} {first : Machine State (Except Fault Result)}
    {next : Result → Machine State (Carried ⊕ Except Fault Next)} {result : Result}
    {final : Carried ⊕ Except Fault Next} (firstRuns : Runs first before (.ok result) middle)
    (nextRuns : Runs (next result) middle final after) :
    Runs (first.orEnd next) before final after :=
  runs_bind firstRuns nextRuns

theorem runs_orEnd_fault {Carried : Type} {first : Machine State (Except Fault Result)}
    {next : Result → Machine State (Carried ⊕ Except Fault Next)} {fault : Fault}
    (firstRuns : Runs first before (.error fault) after) :
    Runs (first.orEnd next) before (.inr (.error fault)) after :=
  runs_bind firstRuns (runs_pure _)

theorem runs_ofChecked {computation : Except Breach Result} {result : Result}
    (defined : computation = .ok result) :
    Runs (Machine.ofChecked computation) before result before := by
  rw [defined]
  exact runs_pure result

/-- A machine is deterministic, so a run found by the rules is the run. -/
theorem runs_unique {program : Machine State Result} {result other : Result} {otherAfter : State}
    (runs : Runs program before result after) (otherRuns : Runs program before other otherAfter) :
    result = other ∧ after = otherAfter := by
  rw [Runs] at runs otherRuns
  rw [runs] at otherRuns
  cases otherRuns
  exact ⟨rfl, rfl⟩

section Loops

variable {Carried : Type} [Nonempty State] [Nonempty Result]
  {turn : Carried → Machine State (Carried ⊕ Result)} {carried next : Carried} {result : Result}

/-- A loop ends with the turn that comes to a result. -/
theorem runs_repeatM_last (turnRuns : Runs (turn carried) before (.inr result) after) :
    Runs (repeatM turn carried) before result after := by
  rw [repeatM_eq_of_monadTail]
  exact runs_bind turnRuns (runs_pure result)

/-- A turn without a result leaves it to the turns behind it. -/
theorem runs_repeatM_next (turnRuns : Runs (turn carried) before (.inl next) middle)
    (othersRun : Runs (repeatM turn next) middle result after) :
    Runs (repeatM turn carried) before result after := by
  rw [repeatM_eq_of_monadTail]
  exact runs_bind turnRuns othersRun

end Loops

end Runs

end CompilerFront.Expr.Guarded
