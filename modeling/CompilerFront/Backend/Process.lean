import CompilerFront.Backend.Child
import CompilerFront.Expr.Constant
import CompilerFront.Front.Run
import CompilerFront.Settings.Schema

/-!
Contract: the backend that starts a compiler process for each build.

Owns:
- `ProcessBackend`, the command with its limit of time;
- how the fate of the process, and whether it comes before the limit, becomes the outcome of the
  build;
- evaluation, which starts no process.
-/

namespace CompilerFront

structure ProcessBackend where
  command : String
  arguments : List String
  limit : Option Duration
deriving DecidableEq, Repr

namespace ProcessBackend

def ofSettings (settings : Settings.BackendSettings) : ProcessBackend :=
  ⟨settings.command, settings.arguments, settings.limit⟩

/-- The outcome of a child that was waited for: its exit status, or why there is none. -/
def statusOfFate (backend : ProcessBackend) : Fate → Except BackendFault Nat
  | .exited status => .ok status
  | .killed => .error (.terminated backend.command)
  | .lost source => .error (.io s!"failed to wait for backend `{backend.command}`" source)

/-- The outcome of a child that was started. There is one limit for all of it, for sending the
request and for waiting. -/
def statusOf (backend : ProcessBackend) (child : Child) : Except BackendFault Nat :=
  match backend.limit, child.settled.within backend.limit, child.delivery with
  | some limit, false, _ => .error (.timeout backend.command limit)
  | _, _, .failed source =>
    .error (.io s!"failed to send request `{backend.command}`" source)
  | _, _, .complete | _, _, .closed => backend.statusOfFate child.fate

def statusOfLaunch (backend : ProcessBackend) (launch : Launch) : Except BackendFault Nat :=
  match launch with
  | .refused source => .error (.spawn backend.command source)
  | .started child => backend.statusOf child

/-- An effect of a child as it reaches the outside; a quiet build drops the output of the child. -/
def passOn (quiet : Bool) : Effect → List Entry
  | .output text => if quiet then [] else [.effect (.output text)]
  | other => [.effect other]

def passOnAll (quiet : Bool) (effects : List (Duration × Effect)) : List Entry :=
  effects.flatMap fun timed => passOn quiet timed.2

/-- What happens until the outcome of a child is known or the child is given up. That it has closed
its input is noted behind all that it has done by then. -/
def entriesOf (backend : ProcessBackend) (quiet : Bool) : Launch → List Entry
  | .refused _ => []
  | .started child =>
    let effects := child.effects.filter fun timed => timed.1.within (child.deadline backend.limit)
    if child.delivery = .closed && child.sent.within backend.limit then
      let (before, behind) := effects.partition fun timed =>
        timed.1.nanoseconds ≤ child.sent.nanoseconds
      passOnAll quiet before ++ .noted .closedInput :: passOnAll quiet behind
    else passOnAll quiet effects

theorem asides_passOn (quiet : Bool) (effect : Effect) :
    ∀ entry ∈ passOn quiet effect, entry.isAside = true := by
  unfold passOn
  split
  · split
    · exact fun _ member => nomatch member
    · exact List.forall_mem_singleton.mpr rfl
  · exact List.forall_mem_singleton.mpr rfl

theorem asides_passOnAll (quiet : Bool) (effects : List (Duration × Effect)) :
    ∀ entry ∈ passOnAll quiet effects, entry.isAside = true := by
  intro entry member
  obtain ⟨timed, -, passed⟩ := List.mem_flatMap.mp member
  exact asides_passOn quiet timed.2 entry passed

/-- Whatever the child does, the user is shown nothing and no backend is asked: the lines it prints
are passed on as effects, and the rest are notes. -/
theorem asides_entriesOf (backend : ProcessBackend) (quiet : Bool) (launch : Launch) :
    ∀ entry ∈ backend.entriesOf quiet launch, entry.isAside = true := by
  unfold entriesOf
  split
  · exact fun _ member => nomatch member
  · split
    · rw [List.forall_mem_append, List.forall_mem_cons]
      exact ⟨asides_passOnAll quiet _, rfl, asides_passOnAll quiet _⟩
    · exact asides_passOnAll quiet _

/-- Builds a request with a process; status zero is success. -/
def build (backend : ProcessBackend) (launch : Command → Launch) (request : Request) :
    Discreet (Except BackendFault Bool) := do
  let outcome := launch ⟨backend.command, backend.arguments, request.payload⟩
  Discreet.note (.spawning backend.command backend.arguments)
  ⟨⟨(), backend.entriesOf request.suppressLog outcome⟩, backend.asides_entriesOf _ outcome⟩
  match backend.statusOfLaunch outcome with
  | .ok status =>
    Discreet.note (.exited status)
    return .ok (status == 0)
  | .error fault => return .error fault

/-- Evaluates an expression; what is wrong with it is a failure that the backend reports. -/
def evaluate (expression : String) : Discreet (Except BackendFault Evaluated) :=
  match Expr.evaluate expression with
  | .ok value => return .ok (.value value)
  | .error fault => return .ok (.failure fault.text)

def toBackend (backend : ProcessBackend) (launch : Command → Launch) : Backend where
  build := backend.build launch
  evaluate := evaluate

end ProcessBackend

end CompilerFront
