import CompilerFront.Proofs.Runs.Course
import CompilerFront.Proofs.Runs.Resolution

/-!
Contract: how exit code, events, questions and connections of a run hang together.

Owns:
- what a backend answers to a question;
- the kinds of events, and the order of kinds that each way of ending brings with it;
- `Contract`, which ties together all that can be seen of a run;
- `run_contract`, that every run keeps it, whatever its collaborators do.
-/

namespace CompilerFront

/-- What a backend says to a question: that it succeeds, that it does not, or a fault. -/
def Backend.answer (backend : Backend) : Question → Except BackendFault Bool
  | .build request => (backend.build request).result
  | .evaluate expression =>
    (backend.evaluate expression).result.map fun
      | .value _ => true
      | .failure _ => false

namespace Collaborators

/-- There is no backend, or it fails at the question. -/
def Breaks (collaborators : Collaborators) (question : Question) : Prop :=
  (∃ fault, collaborators.connect.result = .error fault) ∨
    ∃ backend fault, collaborators.connect.result = .ok backend ∧
      backend.answer question = .error fault

/-- There is a backend, and it reports a failure. -/
def Declines (collaborators : Collaborators) (question : Question) : Prop :=
  ∃ backend, collaborators.connect.result = .ok backend ∧ backend.answer question = .ok false

end Collaborators

theorem ExitCode.number_mem (code : ExitCode) : code.number ∈ [0, 1, 2, 30] := by
  cases code <;> decide

/-! ## Kinds of events -/

namespace Event

/-- What an event is for, whatever its text is. -/
inductive Kind where
  | answer
  | error
  | usage
  | warning
deriving DecidableEq, Repr

def kind : Event → Kind
  | .value _ | .version _ | .help _ => .answer
  | .error _ => .error
  | .usage _ => .usage
  | .warning _ => .warning

theorem countP_isAnswer (events : List Event) :
    events.countP isAnswer = (events.map kind).count .answer := by
  rw [List.count_eq_countP, List.countP_map]
  apply List.countP_congr
  intro event _
  cases event <;> simp [isAnswer, kind]

end Event

/-- The kinds of events that a way of ending brings with it. -/
def Resolution.report (resolution : Resolution) : ExitCode → List Event.Kind
  | .success => if resolution.isBuild then [] else [.answer]
  | .failure => [.error]
  | .usage => [.error, .usage]
  | .backendFailure => if resolution.isEvaluation then [.error] else []

/-- The kinds of events in front of them: options that an evaluation ignores are warned about. -/
def Invocation.preface (invocation : Invocation) : List Event.Kind :=
  if invocation.resolve.isEvaluation ∧ invocation.hasBuildFlags then [.warning] else []

theorem Invocation.map_kind_warnings (invocation : Invocation) :
    invocation.warnings.map Event.kind = if invocation.hasBuildFlags then [.warning] else [] := by
  unfold warnings
  split
  · rfl
  · rfl

/-! ## What holds on every course -/

/-- What a run shows, asks and ends with fits together. Each clause is about the invocation, the
answers of the collaborators and what is seen, and none about the program in between. -/
structure Contract (invocation : Invocation) (collaborators : Collaborators) (seen : Seen) :
    Prop where
  connects : seen.connects =
    if invocation.resolve.isEvaluation ∨ invocation.resolve.isBuild then 1 else 0
  questions : seen.questions =
    if collaborators.connect.result.isOk then invocation.question?.toList else []
  verbatim : ∀ expression, .evaluate expression ∈ seen.questions →
    invocation.expression = some expression
  usageCode : seen.code.number = 2 ↔ ∃ fault, invocation.resolve = .invalid fault
  failureCode : seen.code.number = 1 ↔
    ∃ question, invocation.question? = some question ∧ collaborators.Breaks question
  backendFailureCode : seen.code.number = 30 ↔
    ∃ question, invocation.question? = some question ∧ collaborators.Declines question
  otherCode : seen.code.number ∈ [0, 1, 2, 30]
  kinds : seen.events.map Event.kind =
    invocation.preface ++ invocation.resolve.report seen.code
  answers : seen.events.countP Event.isAnswer =
    if seen.code.number = 0 ∧ ¬invocation.resolve.isBuild then 1 else 0
  errors : (seen.events.map Event.kind).count .error =
    if seen.code.number = 1 ∨ seen.code.number = 2 ∨
      (seen.code.number = 30 ∧ invocation.resolve.isEvaluation) then 1 else 0
  usages : (seen.events.map Event.kind).count .usage = if seen.code.number = 2 then 1 else 0
  usageLast : seen.code.number = 2 →
    ∃ message, seen.events = [.error message, .usage collaborators.help]
  warnings : (seen.events.map Event.kind).count .warning =
    if invocation.resolve.isEvaluation ∧ invocation.hasBuildFlags then 1 else 0
  warningFirst : ∀ before text after, seen.events = before ++ .warning text :: after → before = []

namespace Course

variable {invocation : Invocation} {collaborators : Collaborators} {seen : Seen}

/-- Help, the version and a usage fault never reach for a backend; the other two do so once. -/
theorem connects_eq (course : Course invocation collaborators seen) :
    seen.connects =
      if invocation.resolve.isEvaluation ∨ invocation.resolve.isBuild then 1 else 0 := by
  cases course <;> simp [Resolution.isEvaluation, Resolution.isBuild, *]

theorem questions_eq (course : Course invocation collaborators seen) :
    seen.questions =
      if collaborators.connect.result.isOk then invocation.question?.toList else [] := by
  cases course <;> simp [Invocation.question?, Except.isOk, Except.toBool, *]

theorem question?_of_mem (course : Course invocation collaborators seen) {question : Question}
    (asked : question ∈ seen.questions) : invocation.question? = some question := by
  rw [course.questions_eq] at asked
  split at asked
  · exact Option.mem_toList.mp asked
  · exact absurd asked List.not_mem_nil

theorem verbatim (course : Course invocation collaborators seen) (expression : String)
    (asked : .evaluate expression ∈ seen.questions) : invocation.expression = some expression := by
  have resolves := Invocation.question?_eq_evaluate_iff.mp (course.question?_of_mem asked)
  exact (Invocation.resolve_eq_evaluate_iff.mp resolves).2.2

/-- The code for usage belongs to the resolution and to no answer of a collaborator. -/
theorem code_eq_usage_iff (course : Course invocation collaborators seen) :
    seen.code.number = 2 ↔ ∃ fault, invocation.resolve = .invalid fault := by
  cases course <;> simp [ExitCode.number, *]

/-- The code `1` says that something broke before an answer came. -/
theorem code_eq_failure_iff (course : Course invocation collaborators seen) :
    seen.code.number = 1 ↔
      ∃ question, invocation.question? = some question ∧ collaborators.Breaks question := by
  unfold Invocation.question? Collaborators.Breaks
  cases course <;> simp [ExitCode.number, Backend.answer, Except.map, *]

/-- The code `30` says that the answer came and was no. -/
theorem code_eq_backendFailure_iff (course : Course invocation collaborators seen) :
    seen.code.number = 30 ↔
      ∃ question, invocation.question? = some question ∧ collaborators.Declines question := by
  unfold Invocation.question? Collaborators.Declines
  cases course <;> simp [ExitCode.number, Backend.answer, Except.map, *]

/-- The events come in an order of kinds that the exit code settles. -/
theorem kinds_eq (course : Course invocation collaborators seen) :
    seen.events.map Event.kind = invocation.preface ++ invocation.resolve.report seen.code := by
  unfold Invocation.preface Resolution.report
  cases course <;>
    simp [Invocation.map_kind_warnings, Resolution.isBuild, Resolution.isEvaluation, Event.kind, *]

theorem usage_events (course : Course invocation collaborators seen)
    (ends : seen.code.number = 2) :
    ∃ message, seen.events = [.error message, .usage collaborators.help] := by
  cases course with
  | usage resolves => exact ⟨_, rfl⟩
  | _ => cases ends

end Course

/-! ## How often a kind occurs -/

/-- A way of ending brings each kind once or not at all. -/
theorem count_report (resolution : Resolution) (code : ExitCode) (kind : Event.Kind) :
    (resolution.report code).count kind =
      match kind with
      | .answer => if code.number = 0 ∧ ¬resolution.isBuild then 1 else 0
      | .error =>
        if code.number = 1 ∨ code.number = 2 ∨ (code.number = 30 ∧ resolution.isEvaluation)
        then 1 else 0
      | .usage => if code.number = 2 then 1 else 0
      | .warning => 0 := by
  unfold Resolution.report
  cases resolution.isBuild <;> cases resolution.isEvaluation <;> cases code <;> cases kind <;> rfl

theorem count_preface (invocation : Invocation) (kind : Event.Kind) :
    invocation.preface.count kind =
      if kind = .warning ∧ invocation.resolve.isEvaluation ∧ invocation.hasBuildFlags
      then 1 else 0 := by
  unfold Invocation.preface
  cases invocation.resolve.isEvaluation <;> cases invocation.hasBuildFlags <;> cases kind <;> rfl

/-- No report holds a warning: that event comes before the question and never with the answer. -/
theorem append_warning_ne_report {resolution : Resolution} {code : ExitCode}
    (before after : List Event.Kind) : before ++ .warning :: after ≠ resolution.report code := by
  intro same
  have occurs : Event.Kind.warning ∈ resolution.report code := by
    rw [← same]
    exact List.mem_append_right before List.mem_cons_self
  exact List.count_eq_zero.mp (count_report resolution code .warning) occurs

/-- A warning stands in front of all else. -/
theorem eq_nil_of_append_warning {invocation : Invocation} {code : ExitCode}
    {before after : List Event.Kind}
    (kinds : before ++ .warning :: after =
      invocation.preface ++ invocation.resolve.report code) : before = [] := by
  unfold Invocation.preface at kinds
  split at kinds
  · cases before with
    | nil => rfl
    | cons first before => exact absurd (List.cons.inj kinds).2 (append_warning_ne_report _ _)
  · exact absurd kinds (append_warning_ne_report _ _)

/-! ## Every run -/

/-- Whatever the collaborators answer, a run keeps the contract. The course of a run tells its
events up to their texts, and everything that is counted is counted there. -/
theorem run_contract (invocation : Invocation) (collaborators : Collaborators) :
    Contract invocation collaborators (invocation.run collaborators).seen := by
  have course := course_run invocation collaborators
  have kinds := course.kinds_eq
  constructor
  case connects => exact course.connects_eq
  case questions => exact course.questions_eq
  case verbatim => exact course.verbatim
  case usageCode => exact course.code_eq_usage_iff
  case failureCode => exact course.code_eq_failure_iff
  case backendFailureCode => exact course.code_eq_backendFailure_iff
  case otherCode => exact ExitCode.number_mem _
  case kinds => exact kinds
  case answers =>
    rw [Event.countP_isAnswer, kinds, List.count_append, count_preface, count_report]
    simp
  case errors =>
    rw [kinds, List.count_append, count_preface, count_report]
    simp
  case usages =>
    rw [kinds, List.count_append, count_preface, count_report]
    simp
  case warnings =>
    rw [kinds, List.count_append, count_preface, count_report]
    simp
  case usageLast => exact course.usage_events
  case warningFirst =>
    intro before text after events
    rw [events, List.map_append, List.map_cons] at kinds
    exact List.map_eq_nil_iff.mp (eq_nil_of_append_warning kinds)

end CompilerFront
