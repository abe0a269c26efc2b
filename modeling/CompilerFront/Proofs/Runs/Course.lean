import CompilerFront.Front.Run

/-!
Contract: how a run goes, as far as it can be seen from outside.

Owns:
- `Seen`, what is left of a run when notes and effects are taken away;
- `Course`, the ways a run can go, one for each answer of its collaborators that makes a difference;
- `course_run`, by which every run goes one of these ways.

Does not own: what follows for exit codes and events (`CompilerFront.Proofs.Runs.Contract`).
-/

namespace CompilerFront

/-- What can be seen of a run: its code, what is shown, what a backend is asked, and how often one
is asked for. -/
structure Seen where
  code : ExitCode
  events : List Event
  questions : List Question
  connects : Nat
deriving DecidableEq

namespace Journaled

def seen (run : Journaled ExitCode) : Seen := ⟨run.result, run.events, run.questions, run.connects⟩

@[simp] theorem seen_pure (code : ExitCode) :
    (pure code : Journaled ExitCode).seen = ⟨code, [], [], 0⟩ := rfl

/-- What was seen before stays, and the rest follows it. -/
@[simp] theorem seen_bind {Before : Type} (before : Journaled Before)
    (next : Before → Journaled ExitCode) :
    (before >>= next).seen =
      ⟨(next before.result).seen.code, before.events ++ (next before.result).seen.events,
        before.questions ++ (next before.result).seen.questions,
        before.connects + (next before.result).seen.connects⟩ := by
  simp [seen]

end Journaled

def Invocation.warnings (invocation : Invocation) : List Event :=
  if invocation.hasBuildFlags then [.warning ignoredFlagsWarning] else []

/-! ## Courses -/

section Course

variable (invocation : Invocation) (collaborators : Collaborators)

/-- The ways a run can go, one for each place that it can end at. What is counted of runs is counted
over these. -/
inductive Course : Seen → Prop where
  | help (resolves : invocation.resolve = .help) :
      Course ⟨.success, [.help collaborators.help], [], 0⟩
  | bare (resolves : invocation.resolve = .bare) :
      Course ⟨.success, [.help collaborators.help], [], 0⟩
  | version (resolves : invocation.resolve = .version) :
      Course ⟨.success,
        [.version (versionText collaborators.version collaborators.revision.result)], [], 0⟩
  | usage {fault : UsageFault} (resolves : invocation.resolve = .invalid fault) :
      Course ⟨.usage, [.error fault.message, .usage collaborators.help], [], 0⟩
  | evaluationUnconnected {expression : String} {fault : SettingsFault}
      (resolves : invocation.resolve = .evaluate expression)
      (refused : collaborators.connect.result = .error fault) :
      Course ⟨.failure, invocation.warnings ++ [.error (RunFault.settings fault).message], [], 1⟩
  | evaluated {expression : String} {backend : Backend} {value : Expr.Value}
      (resolves : invocation.resolve = .evaluate expression)
      (connected : collaborators.connect.result = .ok backend)
      (answers : (backend.evaluate expression).result = .ok (.value value)) :
      Course ⟨.success, invocation.warnings ++ [.value value.text], [.evaluate expression], 1⟩
  | evaluationFailed {expression : String} {backend : Backend} {message : String}
      (resolves : invocation.resolve = .evaluate expression)
      (connected : collaborators.connect.result = .ok backend)
      (answers : (backend.evaluate expression).result = .ok (.failure message)) :
      Course ⟨.backendFailure, invocation.warnings ++ [.error message], [.evaluate expression], 1⟩
  | evaluatorBroke {expression : String} {backend : Backend} {fault : BackendFault}
      (resolves : invocation.resolve = .evaluate expression)
      (connected : collaborators.connect.result = .ok backend)
      (answers : (backend.evaluate expression).result = .error fault) :
      Course ⟨.failure, invocation.warnings ++ [.error s!"evaluation error: {fault.message}"],
        [.evaluate expression], 1⟩
  | buildUnconnected {mode : Mode} {fault : SettingsFault}
      (resolves : invocation.resolve = .build mode)
      (refused : collaborators.connect.result = .error fault) :
      Course ⟨.failure, [.error (RunFault.settings fault).message], [], 1⟩
  | built {mode : Mode} {backend : Backend} (resolves : invocation.resolve = .build mode)
      (connected : collaborators.connect.result = .ok backend)
      (answers : (backend.build (invocation.request mode)).result = .ok true) :
      Course ⟨.success, [], [.build (invocation.request mode)], 1⟩
  | buildFailed {mode : Mode} {backend : Backend} (resolves : invocation.resolve = .build mode)
      (connected : collaborators.connect.result = .ok backend)
      (answers : (backend.build (invocation.request mode)).result = .ok false) :
      Course ⟨.backendFailure, [], [.build (invocation.request mode)], 1⟩
  | builderBroke {mode : Mode} {backend : Backend} {fault : BackendFault}
      (resolves : invocation.resolve = .build mode)
      (connected : collaborators.connect.result = .ok backend)
      (answers : (backend.build (invocation.request mode)).result = .error fault) :
      Course ⟨.failure, [.error s!"execution error: {fault.message}"],
        [.build (invocation.request mode)], 1⟩

end Course

/-! ## Parts of runs -/

namespace Collaborators

variable {collaborators : Collaborators}

theorem seen_fail (fault : RunFault) :
    (fail fault).seen = ⟨fault.exitCode, [.error fault.message], [], 0⟩ := rfl

theorem seen_runVersion :
    collaborators.runVersion.seen =
      ⟨.success, [.version (versionText collaborators.version collaborators.revision.result)], [],
        0⟩ := by
  cases known : collaborators.revision.result with
  | none => simp [runVersion, known]
  | some identifier => simp [runVersion, known]

theorem seen_runUsageFault (fault : UsageFault) :
    (collaborators.runUsageFault fault).seen =
      ⟨.usage, [.error fault.message, .usage collaborators.help], [], 0⟩ := rfl

section Backends

variable {next : Backend → Journaled ExitCode}

/-- Without a backend nothing is asked, and the connection is tried once. -/
theorem seen_withBackend_refused {fault : SettingsFault}
    (refused : collaborators.connect.result = .error fault) :
    (collaborators.withBackend next).seen =
      ⟨.failure, [.error (RunFault.settings fault).message], [], 1⟩ := by
  simp [withBackend, refused, seen_fail, RunFault.exitCode]

/-- With a backend at hand the run goes on as it would without having asked for one. -/
theorem seen_withBackend {backend : Backend}
    (connected : collaborators.connect.result = .ok backend) :
    (collaborators.withBackend next).seen =
      { (next backend).seen with connects := 1 + (next backend).seen.connects } := by
  simp [withBackend, connected]

end Backends

end Collaborators

namespace Invocation

variable {invocation : Invocation} {collaborators : Collaborators}

theorem seen_run_evaluate {expression : String}
    (resolves : invocation.resolve = .evaluate expression) :
    (invocation.run collaborators).seen =
      let evaluation := (collaborators.runEvaluation expression).seen
      { evaluation with events := invocation.warnings ++ evaluation.events } := by
  unfold run warnings
  rw [resolves]
  cases invocation.hasBuildFlags with
  | true => simp
  | false => simp

theorem seen_run_build {mode : Mode} (resolves : invocation.resolve = .build mode) :
    (invocation.run collaborators).seen =
      (collaborators.runBuild (invocation.request mode) mode).seen := by
  simp [run, resolves]

end Invocation

/-! ## Every run has a course -/

section Connected

variable {invocation : Invocation} {collaborators : Collaborators} {backend : Backend}

theorem course_evaluate {expression : String}
    (resolves : invocation.resolve = .evaluate expression)
    (connected : collaborators.connect.result = .ok backend) :
    Course invocation collaborators (invocation.run collaborators).seen := by
  rw [Invocation.seen_run_evaluate resolves, Collaborators.runEvaluation,
    Collaborators.seen_withBackend connected]
  cases answers : (backend.evaluate expression).result with
  | error fault => simpa [answers] using Course.evaluatorBroke resolves connected answers
  | ok evaluated =>
    cases evaluated with
    | value value => simpa [answers] using Course.evaluated resolves connected answers
    | failure message => simpa [answers] using Course.evaluationFailed resolves connected answers

/-- A build warns of nothing, so its events are those of its answer. -/
theorem course_build {mode : Mode} (resolves : invocation.resolve = .build mode)
    (connected : collaborators.connect.result = .ok backend) :
    Course invocation collaborators (invocation.run collaborators).seen := by
  rw [Invocation.seen_run_build resolves, Collaborators.runBuild,
    Collaborators.seen_withBackend connected]
  cases answers : (backend.build (invocation.request mode)).result with
  | error fault => simpa [answers] using Course.builderBroke resolves connected answers
  | ok success =>
    cases success with
    | false => simpa [answers] using Course.buildFailed resolves connected answers
    | true => simpa [answers] using Course.built resolves connected answers

end Connected

/-- Every run goes one of the ways there are. -/
theorem course_run (invocation : Invocation) (collaborators : Collaborators) :
    Course invocation collaborators (invocation.run collaborators).seen := by
  cases resolves : invocation.resolve with
  | help => simpa [Invocation.run, resolves] using Course.help resolves
  | bare => simpa [Invocation.run, resolves] using Course.bare resolves
  | version =>
    simpa [Invocation.run, resolves, Collaborators.seen_runVersion] using Course.version resolves
  | invalid fault =>
    simpa [Invocation.run, resolves, Collaborators.seen_runUsageFault] using Course.usage resolves
  | evaluate expression =>
    cases connected : collaborators.connect.result with
    | ok backend => exact course_evaluate resolves connected
    | error fault =>
      rw [Invocation.seen_run_evaluate resolves, Collaborators.runEvaluation,
        Collaborators.seen_withBackend_refused connected]
      exact .evaluationUnconnected resolves connected
  | build mode =>
    cases connected : collaborators.connect.result with
    | ok backend => exact course_build resolves connected
    | error fault =>
      rw [Invocation.seen_run_build resolves, Collaborators.runBuild,
        Collaborators.seen_withBackend_refused connected]
      exact .buildUnconnected resolves connected

end CompilerFront
