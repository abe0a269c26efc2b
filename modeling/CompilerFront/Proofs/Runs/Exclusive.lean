import Mathlib
import CompilerFront.Proofs.Runs.Isolation
import CompilerFront.Proofs.Runs.Resolution

/-!
Contract: an evaluation depends on its expression alone.

Owns:
- `Invocation.Evaluates`, the invocations that ask for an evaluation;
- `Seen.pastWarning`, by which runs are compared: all that is seen but for a warning in front;
- `Exclusive` and `evaluation_exclusive`: two invocations with one expression have the same run with
  any collaborators, and in any two surroundings where the settings can be loaded.

Does not own: the value of an expression, nor its text.
-/

namespace CompilerFront

/-- The invocation asks for an evaluation, and neither for help nor for the version. -/
structure Invocation.Evaluates (invocation : Invocation) (expression : String) : Prop where
  noHelp : invocation.help = false
  noVersion : invocation.version = false
  asks : invocation.expression = some expression

theorem Invocation.Evaluates.resolves {invocation : Invocation} {expression : String}
    (evaluates : invocation.Evaluates expression) : invocation.resolve = .evaluate expression :=
  resolve_eq_evaluate_iff.mpr ⟨evaluates.noHelp, evaluates.noVersion, evaluates.asks⟩

/-! ## Warnings in front -/

namespace Seen

/-- A warning comes before all other events. -/
def Warned (seen : Seen) : Prop := ∃ text events, seen.events = .warning text :: events

/-- What is seen but for a warning in front. -/
def pastWarning (seen : Seen) : Seen :=
  match seen.events with
  | .warning _ :: events => { seen with events := events }
  | _ => seen

theorem pastWarning_eq_self {seen : Seen} (unwarned : ¬seen.Warned) : seen.pastWarning = seen := by
  unfold pastWarning
  split
  · rename_i text events warned
    exact absurd ⟨text, events, warned⟩ unwarned
  · rfl

end Seen

section Evaluation

variable {invocation : Invocation} {collaborators : Collaborators} {expression : String}

/-- An evaluation itself does not begin with a warning. -/
theorem not_warned_runEvaluation (collaborators : Collaborators) (expression : String) :
    ¬(collaborators.runEvaluation expression).seen.Warned := by
  rintro ⟨text, events, warned⟩
  rw [Collaborators.runEvaluation] at warned
  cases connected : collaborators.connect.result with
  | error fault =>
    rw [Collaborators.seen_withBackend_refused connected] at warned
    cases warned
  | ok backend =>
    rw [Collaborators.seen_withBackend connected] at warned
    cases answers : (backend.evaluate expression).result with
    | error fault => simp [answers] at warned
    | ok evaluated => cases evaluated <;> simp [answers] at warned

/-- Past the warning nothing of the invocation is left but its expression. -/
theorem pastWarning_run (evaluates : invocation.Evaluates expression) :
    (invocation.run collaborators).seen.pastWarning =
      (collaborators.runEvaluation expression).seen := by
  have unwarned := not_warned_runEvaluation collaborators expression
  rw [Invocation.seen_run_evaluate evaluates.resolves, Invocation.warnings]
  cases invocation.hasBuildFlags with
  | true => rfl
  | false => exact Seen.pastWarning_eq_self unwarned

theorem warned_run_iff (evaluates : invocation.Evaluates expression) :
    (invocation.run collaborators).seen.Warned ↔ invocation.hasBuildFlags := by
  have unwarned := not_warned_runEvaluation collaborators expression
  rw [Invocation.seen_run_evaluate evaluates.resolves, Invocation.warnings]
  cases invocation.hasBuildFlags with
  | true => exact iff_of_true ⟨_, _, rfl⟩ rfl
  | false => exact iff_of_false unwarned Bool.false_ne_true

end Evaluation

/-! ## Any settings -/

/-- All that is seen of an evaluation where the settings can be loaded. -/
def settledEvaluation (expression : String) : Seen :=
  match Expr.evaluate expression with
  | .ok value => ⟨.success, [.value value.text], [.evaluate expression], 1⟩
  | .error fault => ⟨.backendFailure, [.error fault.text], [.evaluate expression], 1⟩

theorem settledEvaluation_code_ne (expression : String) :
    (settledEvaluation expression).code.number ≠ 1 := by
  unfold settledEvaluation
  split
  · exact nofun
  · exact nofun

/-- The backend that starts processes evaluates by itself, so its settings do not count. -/
theorem seen_runEvaluation_of_toBackend {collaborators : Collaborators} {expression : String}
    {backend : ProcessBackend} {launch : Command → Launch}
    (connected : collaborators.connect.result = .ok (backend.toBackend launch)) :
    (collaborators.runEvaluation expression).seen = settledEvaluation expression := by
  rw [Collaborators.runEvaluation, Collaborators.seen_withBackend connected, settledEvaluation]
  simp only [ProcessBackend.toBackend, ProcessBackend.evaluate]
  cases Expr.evaluate expression with
  | ok value => simp
  | error fault => simp

namespace Surroundings

def Loads (surroundings : Surroundings) : Prop :=
  ∃ loaded, surroundings.load.result = .ok loaded

section Loads

variable {surroundings : Surroundings} {invocation : Invocation} {expression : String}

theorem result_connect_of_loads (loads : surroundings.Loads) :
    ∃ backend, surroundings.connect.result =
      .ok (ProcessBackend.toBackend backend surroundings.launch) := by
  obtain ⟨loaded, loads⟩ := loads
  exact ⟨_, result_connect loads⟩

theorem seen_runEvaluation_of_loads (loads : surroundings.Loads) (limit : Duration) :
    ((surroundings.collaborators limit).runEvaluation expression).seen =
      settledEvaluation expression := by
  obtain ⟨_, connected⟩ := result_connect_of_loads loads
  exact seen_runEvaluation_of_toBackend connected

/-- The surroundings have a say in whether the settings load, and in nothing after that. -/
theorem seen_carryOut_evaluation (loads : surroundings.Loads)
    (evaluates : invocation.Evaluates expression) :
    (surroundings.carryOut invocation).seen =
      { settledEvaluation expression with
        events := invocation.warnings ++ (settledEvaluation expression).events } := by
  rw [seen_carryOut, Invocation.seen_run_evaluate evaluates.resolves,
    seen_runEvaluation_of_loads loads]

theorem pastWarning_carryOut (loads : surroundings.Loads)
    (evaluates : invocation.Evaluates expression) :
    (surroundings.carryOut invocation).seen.pastWarning = settledEvaluation expression := by
  rw [seen_carryOut, pastWarning_run evaluates, seen_runEvaluation_of_loads loads]

end Loads

end Surroundings

/-! ## Two runs -/

/-- Two invocations cannot be told apart but for the warning that goes with build flags. The later
clauses place the runs in surroundings, whose only part is that their settings load. -/
structure Exclusive (left right : Invocation) (expression : String) : Prop where
  alike : ∀ collaborators,
    (left.run collaborators).seen.pastWarning = (right.run collaborators).seen.pastWarning
  warned : ∀ collaborators,
    ((left.run collaborators).seen.Warned ↔ left.hasBuildFlags) ∧
      ((right.run collaborators).seen.Warned ↔ right.hasBuildFlags)
  unmoved : ∀ here there : Surroundings, here.Loads → there.Loads →
    (here.carryOut left).seen.pastWarning = (there.carryOut right).seen.pastWarning
  settled : ∀ here : Surroundings, here.Loads →
    (here.carryOut left).seen =
      { settledEvaluation expression with
        events := left.warnings ++ (settledEvaluation expression).events }
  unbroken : ∀ here : Surroundings, here.Loads → (here.carryOut left).seen.code.number ≠ 1

/-- Two invocations with one expression are compared, so that no flag of either can matter. What a
run shows past its warning is the same for both, in any two surroundings whose settings load. -/
theorem evaluation_exclusive {left right : Invocation} {expression : String}
    (leftEvaluates : left.Evaluates expression) (rightEvaluates : right.Evaluates expression) :
    Exclusive left right expression where
  alike collaborators := by rw [pastWarning_run leftEvaluates, pastWarning_run rightEvaluates]
  warned collaborators := ⟨warned_run_iff leftEvaluates, warned_run_iff rightEvaluates⟩
  unmoved here there hereLoads thereLoads := by
    rw [Surroundings.pastWarning_carryOut hereLoads leftEvaluates,
      Surroundings.pastWarning_carryOut thereLoads rightEvaluates]
  settled here loads := Surroundings.seen_carryOut_evaluation loads leftEvaluates
  unbroken here loads := by
    rw [Surroundings.seen_carryOut_evaluation loads leftEvaluates]
    exact settledEvaluation_code_ne expression

def Surroundings.empty : Surroundings where
  read _ := .error (.system .notFound)
  environment _ := none
  configRoot := none
  launch _ := .refused (.system .notFound)
  lookup := .refused (.system .notFound)

theorem Surroundings.empty_loads : Surroundings.empty.Loads := ⟨⟨{}, .builtIn⟩, rfl⟩

/-- Build flags that do not go together lead to a warning and to nothing else. -/
theorem evaluation_exclusive_conflicting :
    let plain : Invocation := { expression := some "true" }
    let flagged : Invocation := { plain with check := true, func := true, files := ["a", "b"] }
    flagged.Evaluates "true" ∧ plain.Evaluates "true" ∧ Exclusive flagged plain "true" ∧
      (Surroundings.empty.carryOut flagged).seen =
        ⟨.success, [.warning ignoredFlagsWarning, .value "true"], [.evaluate "true"], 1⟩ := by
  intro plain flagged
  have plainEvaluates : plain.Evaluates "true" := ⟨rfl, rfl, rfl⟩
  have flaggedEvaluates : flagged.Evaluates "true" := ⟨rfl, rfl, rfl⟩
  have exclusive := evaluation_exclusive flaggedEvaluates plainEvaluates
  have evaluated : settledEvaluation "true" =
      ⟨.success, [.value "true"], [.evaluate "true"], 1⟩ := by
    cbv
  refine ⟨flaggedEvaluates, plainEvaluates, exclusive, ?_⟩
  rw [exclusive.settled Surroundings.empty Surroundings.empty_loads, evaluated]
  rfl

end CompilerFront
