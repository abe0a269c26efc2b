import Mathlib.Order.MinMax
import CompilerFront.Proofs.Runs.Isolation

/-!
Contract: from the end of a compiler process to the exit code of the run.

Owns:
- `Child.EndsInTime`, `Child.FailsInTime` and `Child.Outlasts`, what can come first: the end of a
  child whose request was delivered, the end of a delivery that fails, or the limit;
- `Ends`, the ways a launch can end for a backend, and `ends_iff`, by which each launch ends in
  exactly one of them;
- `Classified`, what an outcome of a build says about the process;
- `Concludes`, what code and events of a run say about it;
- `configured`, the backend of settings with the limit in seconds that they give;
- `build_process`: every build is classified, whether or not the process read its request makes no
  difference, and every run of a build concludes accordingly.

Does not own: what the process leaves behind, which is no part of the outcome.
-/

namespace CompilerFront

/-- A moment comes before a limit, if there is one. -/
def Duration.Before (moment : Duration) (limit : Option Duration) : Prop :=
  ∀ bound, limit = some bound → moment.nanoseconds < bound.nanoseconds

theorem Duration.within_eq_true_iff {moment : Duration} {limit : Option Duration} :
    moment.within limit = true ↔ moment.Before limit := by
  cases limit with
  | none => exact iff_of_true rfl nofun
  | some bound =>
    refine decide_eq_true_iff.trans ⟨?_, fun before => before bound rfl⟩
    rintro before _ ⟨⟩
    exact before

/-! ## The end of a process -/

namespace Child

/-- All of the request was written, or the child closed its input before. The latter is no fault,
since a compiler may end well without reading what it is sent. -/
def Delivered (child : Child) : Prop := child.delivery = .complete ∨ child.delivery = .closed

/-- The request is delivered and the child ends in a way, all of it before the limit if there is
one. -/
structure EndsInTime (child : Child) (limit : Option Duration) (fate : Fate) : Prop where
  delivered : child.Delivered
  sent : child.sent.Before limit
  ended : child.lifetime.Before limit
  fate : child.fate = fate

/-- Writing the request fails before the limit, and not because the child closed its input. -/
structure FailsInTime (child : Child) (limit : Option Duration) (source : IoFault) : Prop where
  failed : child.delivery = .failed source
  sent : child.sent.Before limit

/-- The limit passes first: the request is still being written then, or it is delivered and the
child has not yet ended. -/
def Outlasts (child : Child) (limit : Duration) : Prop :=
  limit.nanoseconds ≤ child.sent.nanoseconds ∨
    child.Delivered ∧ limit.nanoseconds ≤ child.lifetime.nanoseconds

section Settled

variable {child : Child} {limit : Option Duration} {bound : Duration} {source : IoFault}

theorem Delivered.settled_eq (delivered : child.Delivered) :
    child.settled = ⟨max child.sent.nanoseconds child.lifetime.nanoseconds⟩ := by
  rcases delivered with complete | closed
  · rw [settled, complete]
  · rw [settled, closed]

theorem settled_of_failed (failed : child.delivery = .failed source) :
    child.settled = child.sent := by
  rw [settled, failed]

theorem delivered_or_failed (child : Child) :
    child.Delivered ∨ ∃ source, child.delivery = .failed source := by
  cases sent : child.delivery with
  | complete => exact .inl (.inl sent)
  | closed => exact .inl (.inr sent)
  | failed source => exact .inr ⟨source, rfl⟩

/-- A child that was sent its request has settled in time if both the sending and its life are over
by then. -/
theorem Delivered.settled_before_iff (delivered : child.Delivered) :
    child.settled.Before limit ↔ child.sent.Before limit ∧ child.lifetime.Before limit := by
  simp only [delivered.settled_eq, Duration.Before, Nat.max_lt, imp_and, forall_and]

/-- A child is either settled before a limit or outlasts it. -/
theorem outlasts_iff : child.Outlasts bound ↔ ¬child.settled.Before (some bound) := by
  simp only [Duration.Before, Option.some.injEq, forall_eq', Nat.not_lt]
  rcases child.delivered_or_failed with delivered | ⟨source, failed⟩
  · rw [delivered.settled_eq, Outlasts, and_iff_right delivered]
    exact le_max_iff.symm
  · have undelivered : ¬child.Delivered := by
      rw [Delivered, failed]
      rintro (⟨⟨⟩⟩ | ⟨⟨⟩⟩)
    rw [settled_of_failed failed, Outlasts]
    exact or_iff_left fun outlasts => undelivered outlasts.1

theorem settled_or_outlasts (child : Child) (limit : Option Duration) :
    child.settled.Before limit ∨ ∃ bound, limit = some bound ∧ child.Outlasts bound := by
  cases limit with
  | none => exact .inl nofun
  | some bound => exact (Classical.em _).imp_right fun late => ⟨bound, rfl, outlasts_iff.mpr late⟩

end Settled

end Child

/-- A launch gives a child that exits with a status in time. -/
def Launch.ExitsInTime (launch : Launch) (limit : Option Duration) (status : Nat) : Prop :=
  ∃ child, launch = .started child ∧ child.EndsInTime limit (.exited status)

/-- Two launches that differ at most in what a child has read of its request. A child that reads all
of it has it written early, and one that reads nothing may keep the writing waiting until it ends;
both are through with it and with all else by one and the same moment. -/
inductive Launch.SameButRead : Launch → Launch → Prop where
  | same (launch : Launch) : SameButRead launch launch
  | started {child other : Child} (delivered : child.Delivered) (otherDelivered : other.Delivered)
      (fate : child.fate = other.fate)
      (moment : max child.sent.nanoseconds child.lifetime.nanoseconds =
        max other.sent.nanoseconds other.lifetime.nanoseconds) :
      SameButRead (.started child) (.started other)

namespace ProcessBackend

variable {backend : ProcessBackend}

def commandFor (backend : ProcessBackend) (request : Request) : Command :=
  ⟨backend.command, backend.arguments, request.payload⟩

/-- The ways a launch can end for a backend. Which one it is depends on what comes first: the limit,
the end of the writing, or the end of the child. -/
inductive Ends (backend : ProcessBackend) : Launch → Except BackendFault Nat → Prop where
  | refused {source : IoFault} :
      Ends backend (.refused source) (.error (.spawn backend.command source))
  | late {child : Child} {limit : Duration} (bounded : backend.limit = some limit)
      (outlasts : child.Outlasts limit) :
      Ends backend (.started child) (.error (.timeout backend.command limit))
  | unsent {child : Child} {source : IoFault} (fails : child.FailsInTime backend.limit source) :
      Ends backend (.started child)
        (.error (.io s!"failed to send request `{backend.command}`" source))
  | exited {child : Child} {status : Nat}
      (ends : child.EndsInTime backend.limit (.exited status)) :
      Ends backend (.started child) (.ok status)
  | killed {child : Child} (ends : child.EndsInTime backend.limit .killed) :
      Ends backend (.started child) (.error (.terminated backend.command))
  | lost {child : Child} {source : IoFault}
      (ends : child.EndsInTime backend.limit (.lost source)) :
      Ends backend (.started child)
        (.error (.io s!"failed to wait for backend `{backend.command}`" source))

section Status

variable {child : Child}

/-- The limit comes first: a request still being written when it passes is a timeout as well, even
if the write would fail later. -/
theorem statusOf_outlasts {limit : Duration} (bounded : backend.limit = some limit)
    (outlasts : child.Outlasts limit) :
    backend.statusOf child = .error (.timeout backend.command limit) := by
  have late : child.settled.within (some limit) = false := by
    rw [← Bool.not_eq_true, Duration.within_eq_true_iff]
    exact Child.outlasts_iff.mp outlasts
  rw [statusOf, bounded, late]

/-- Before the limit, a failed delivery decides and then the fate of the child. -/
theorem statusOf_settled (settled : child.settled.Before backend.limit) :
    backend.statusOf child =
      match child.delivery with
      | .failed source => .error (.io s!"failed to send request `{backend.command}`" source)
      | .complete | .closed => backend.statusOfFate child.fate := by
  rw [statusOf, Duration.within_eq_true_iff.mpr settled]
  cases backend.limit <;> cases child.delivery <;> rfl

theorem statusOf_fails {source : IoFault} (fails : child.FailsInTime backend.limit source) :
    backend.statusOf child =
      .error (.io s!"failed to send request `{backend.command}`" source) := by
  have settled := fails.sent
  rw [← Child.settled_of_failed fails.failed] at settled
  rw [statusOf_settled settled, fails.failed]

theorem statusOf_ends {fate : Fate} (ends : child.EndsInTime backend.limit fate) :
    backend.statusOf child = backend.statusOfFate fate := by
  have settled := ends.delivered.settled_before_iff.mpr ⟨ends.sent, ends.ended⟩
  rw [statusOf_settled settled, ends.fate]
  rcases ends.delivered with complete | closed
  · rw [complete]
  · rw [closed]

end Status

/-- A child that is settled in time either could not be sent its request or ended in time. -/
theorem ends_of_settled {child : Child} (settled : child.settled.Before backend.limit) :
    backend.Ends (.started child) (backend.statusOf child) := by
  rcases child.delivered_or_failed with delivered | ⟨source, failed⟩
  · obtain ⟨sent, ended⟩ := delivered.settled_before_iff.mp settled
    have ends : child.EndsInTime backend.limit child.fate := ⟨delivered, sent, ended, rfl⟩
    rw [statusOf_ends ends]
    cases fate : child.fate with
    | exited status => exact .exited (fate ▸ ends)
    | killed => exact .killed (fate ▸ ends)
    | lost source => exact .lost (fate ▸ ends)
  · rw [Child.settled_of_failed failed] at settled
    rw [statusOf_fails ⟨failed, settled⟩]
    exact .unsent ⟨failed, settled⟩

/-- Each launch ends in one of the ways, and the status is that of the way. -/
theorem ends_iff {launch : Launch} {result : Except BackendFault Nat} :
    backend.Ends launch result ↔ backend.statusOfLaunch launch = result := by
  constructor
  · intro ends
    cases ends with
    | refused => rfl
    | late bounded outlasts => exact statusOf_outlasts bounded outlasts
    | unsent fails => exact statusOf_fails fails
    | exited ends | killed ends | lost ends => exact statusOf_ends ends
  · rintro rfl
    cases launch with
    | refused source => exact .refused
    | started child =>
      rw [statusOfLaunch]
      rcases child.settled_or_outlasts backend.limit with settled | ⟨limit, bounded, outlasts⟩
      · exact ends_of_settled settled
      · rw [statusOf_outlasts bounded outlasts]
        exact .late bounded outlasts

/-- An exit in time is the status that the backend takes from the launch. -/
theorem exitsInTime_iff {launch : Launch} {status : Nat} :
    launch.ExitsInTime backend.limit status ↔ backend.statusOfLaunch launch = .ok status := by
  rw [← ends_iff]
  constructor
  · rintro ⟨child, rfl, ends⟩
    exact .exited ends
  · intro ends
    cases ends with
    | exited ends => exact ⟨_, rfl, ends⟩

/-- What the child has read is no matter: all that counts of a delivered request is the moment by
which the child is through with it. -/
theorem statusOfLaunch_congr {launch other : Launch} (same : launch.SameButRead other) :
    backend.statusOfLaunch launch = backend.statusOfLaunch other := by
  cases same with
  | same => rfl
  | @started child other delivered otherDelivered fate moment =>
    have settledEq : child.settled = other.settled := by
      rw [delivered.settled_eq, otherDelivered.settled_eq, moment]
    simp only [statusOfLaunch]
    rcases child.settled_or_outlasts backend.limit with settled | ⟨limit, bounded, outlasts⟩
    · obtain ⟨sent, ended⟩ := delivered.settled_before_iff.mp settled
      rw [settledEq] at settled
      obtain ⟨otherSent, otherEnded⟩ := otherDelivered.settled_before_iff.mp settled
      rw [statusOf_ends ⟨delivered, sent, ended, fate⟩,
        statusOf_ends ⟨otherDelivered, otherSent, otherEnded, rfl⟩]
    · have otherOutlasts : other.Outlasts limit := by
        rwa [Child.outlasts_iff, ← settledEq, ← Child.outlasts_iff]
      rw [statusOf_outlasts bounded outlasts, statusOf_outlasts bounded otherOutlasts]

/-- A build succeeds by the status zero. -/
theorem result_build (launch : Command → Launch) (request : Request) :
    (backend.build launch request).result =
      (backend.statusOfLaunch (launch (backend.commandFor request))).map (· == 0) := by
  unfold build
  simp only [Discreet.result_bind]
  cases ended : backend.statusOfLaunch (launch (backend.commandFor request)) with
  | ok status =>
    rw [commandFor] at ended
    simp only [ended]
    rfl
  | error fault =>
    rw [commandFor] at ended
    simp only [ended]
    rfl

/-! ## Builds -/

/-- What the outcome of a build says about the launch. Each kind of outcome stands for one way to
end, but for faults of input and output, which stand for two. -/
structure Classified (backend : ProcessBackend) (launch : Launch)
    (result : Except BackendFault Bool) : Prop where
  ok : ∀ success, result = .ok success ↔
    ∃ status, launch.ExitsInTime backend.limit status ∧ success = (status == 0)
  spawn : ∀ program source, result = .error (.spawn program source) ↔
    program = backend.command ∧ launch = .refused source
  timeout : ∀ program limit, result = .error (.timeout program limit) ↔
    program = backend.command ∧ backend.limit = some limit ∧ ∃ child, launch = .started child ∧
      child.Outlasts limit
  terminated : ∀ program, result = .error (.terminated program) ↔
    program = backend.command ∧ ∃ child, launch = .started child ∧
      child.EndsInTime backend.limit .killed
  io : ∀ source, (∃ context, result = .error (.io context source)) ↔
    ∃ child, launch = .started child ∧
      (child.FailsInTime backend.limit source ∨ child.EndsInTime backend.limit (.lost source))
  other : ∀ message, result ≠ .error (.other message)

/-- A status is zero exactly if the build succeeds, and faults stay what they are. -/
theorem map_eq_error_iff {status : Except BackendFault Nat} {fault : BackendFault} :
    status.map (· == 0) = .error fault ↔ status = .error fault := by
  cases status <;> simp [Except.map]

/-- Every launch ends in one way, so that an outcome tells which of them it was. -/
theorem classified_statusOfLaunch (launch : Launch) :
    backend.Classified launch ((backend.statusOfLaunch launch).map (· == 0)) where
  ok success := by
    rw [Expr.map_eq_ok_iff]
    constructor
    · rintro ⟨status, ended, rfl⟩
      exact ⟨status, exitsInTime_iff.mpr ended, rfl⟩
    · rintro ⟨status, exits, rfl⟩
      exact ⟨status, exitsInTime_iff.mp exits, rfl⟩
  spawn program source := by
    rw [map_eq_error_iff, ← ends_iff]
    constructor
    · rintro ⟨⟩
      exact ⟨rfl, rfl⟩
    · rintro ⟨rfl, rfl⟩
      exact .refused
  timeout program limit := by
    rw [map_eq_error_iff, ← ends_iff]
    constructor
    · intro ends
      cases ends with
      | late bounded outlasts => exact ⟨rfl, bounded, _, rfl, outlasts⟩
    · rintro ⟨rfl, bounded, child, rfl, outlasts⟩
      exact .late bounded outlasts
  terminated program := by
    rw [map_eq_error_iff, ← ends_iff]
    constructor
    · intro ends
      cases ends with
      | killed ends => exact ⟨rfl, _, rfl, ends⟩
    · rintro ⟨rfl, child, rfl, ends⟩
      exact .killed ends
  io source := by
    simp only [map_eq_error_iff, ← ends_iff]
    constructor
    · rintro ⟨context, ends⟩
      cases ends with
      | unsent fails => exact ⟨_, rfl, .inl fails⟩
      | lost ends => exact ⟨_, rfl, .inr ends⟩
    · rintro ⟨child, rfl, fails | ends⟩
      · exact ⟨_, .unsent fails⟩
      · exact ⟨_, .lost ends⟩
  other message := by
    rw [ne_eq, map_eq_error_iff, ← ends_iff]
    rintro ⟨⟩

end ProcessBackend

/-! ## Runs of a build -/

def Seen.ofBuild (request : Request) : Except BackendFault Bool → Seen
  | .ok true => ⟨.success, [], [.build request], 1⟩
  | .ok false => ⟨.backendFailure, [], [.build request], 1⟩
  | .error fault =>
    ⟨.failure, [.error s!"execution error: {fault.message}"], [.build request], 1⟩

theorem seen_run_of_connected {invocation : Invocation} {collaborators : Collaborators}
    {mode : Mode} {backend : Backend} (resolves : invocation.resolve = .build mode)
    (connected : collaborators.connect.result = .ok backend) :
    (invocation.run collaborators).seen = .ofBuild (invocation.request mode)
      (backend.build (invocation.request mode)).result := by
  rw [Invocation.seen_run_build resolves, Collaborators.runBuild,
    Collaborators.seen_withBackend connected]
  cases answers : (backend.build (invocation.request mode)).result with
  | error fault => simp [answers, Seen.ofBuild]
  | ok success => cases success <;> simp [answers, Seen.ofBuild]

namespace ProcessBackend

variable {backend : ProcessBackend}

/-- What code and events of a run say about the launch of its process. A compiler that exits in time
has the last word, so nothing is shown then, whatever its status. -/
structure Concludes (backend : ProcessBackend) (launch : Launch) (run : Journaled ExitCode) :
    Prop where
  success : run.result.number = 0 ↔ launch.ExitsInTime backend.limit 0
  failure : run.result.number = 30 ↔
    ∃ status, launch.ExitsInTime backend.limit status ∧ status ≠ 0
  silent : ∀ status, launch.ExitsInTime backend.limit status → run.events = []
  fault : (∀ status, ¬launch.ExitsInTime backend.limit status) →
    run.result.number = 1 ∧ ∃ fault, backend.Ends launch (.error fault) ∧
      run.events = [.error s!"execution error: {fault.message}"]

theorem concludes_of_seen {launch : Launch} {run : Journaled ExitCode} {request : Request}
    (seen : run.seen = .ofBuild request ((backend.statusOfLaunch launch).map (· == 0))) :
    backend.Concludes launch run := by
  have code : run.result = _ := congrArg Seen.code seen
  have events : run.events = _ := congrArg Seen.events seen
  cases ended : backend.statusOfLaunch launch with
  | ok status =>
    rw [ended] at code events
    have only (other : Nat) : launch.ExitsInTime backend.limit other ↔ status = other := by
      rw [exitsInTime_iff, ended, Except.ok.injEq]
    have exits : ∃ status, launch.ExitsInTime backend.limit status := ⟨status, (only _).mpr rfl⟩
    cases status with
    | zero =>
      have succeeded : run.result.number = 0 := congrArg ExitCode.number code
      refine ⟨by simp [succeeded, only], by simp [succeeded, only], fun _ _ => events, ?_⟩
      exact fun none => absurd exits (not_exists.mpr none)
    | succ positive =>
      have failed : run.result.number = 30 := congrArg ExitCode.number code
      refine ⟨by simp [failed, only], by simp [failed, only], fun _ _ => events, ?_⟩
      exact fun none => absurd exits (not_exists.mpr none)
  | error fault =>
    rw [ended] at code events
    have broken : run.result.number = 1 := congrArg ExitCode.number code
    have none (status : Nat) : ¬launch.ExitsInTime backend.limit status := by
      rw [exitsInTime_iff, ended]
      rintro ⟨⟩
    refine ⟨by simp [broken, none], by simp [broken, none], ?_, ?_⟩
    · exact fun status exits => absurd exits (none status)
    · exact fun _ => ⟨broken, fault, ends_iff.mpr ended, events⟩

/-! ## Configured builds -/

/-- The backend of settings. A build may take as many seconds as they give, and zero seconds stand
for no limit. -/
def configured (settings : Settings) : ProcessBackend where
  command := settings.backend.command
  arguments := settings.backend.arguments
  limit :=
    if settings.backend.timeoutSeconds = 0 then none
    else some ⟨settings.backend.timeoutSeconds * 1000000000⟩

/-- The limit is absent just where the setting is zero. -/
theorem ofSettings_eq_configured (settings : Settings) :
    ofSettings settings.backend = configured settings := by
  rw [ofSettings, configured, mk.injEq]
  refine ⟨rfl, rfl, ?_⟩
  split
  case isTrue unlimited => exact Settings.BackendSettings.limit_eq_none_iff.mpr unlimited
  case isFalse limited => exact Settings.BackendSettings.limit_eq_some_iff.mpr ⟨limited, rfl⟩

/-- The program connects to the backend of its settings, and a build by it concludes with that. -/
structure Builds (surroundings : Surroundings) (backend : ProcessBackend) : Prop where
  connects : surroundings.connect.result = .ok (backend.toBackend surroundings.launch)
  concludes : ∀ (invocation : Invocation) (mode : Mode), invocation.resolve = .build mode →
    backend.Concludes (surroundings.launch (backend.commandFor (invocation.request mode)))
      (surroundings.carryOut invocation)

/-- Nothing but the launch and the settings that load has a say in a build. -/
theorem builds_of_loads {surroundings : Surroundings} {loaded : Settings.Loaded}
    (loads : surroundings.load.result = .ok loaded) :
    Builds surroundings (configured loaded.settings) := by
  have connects := Surroundings.result_connect loads
  rw [ofSettings_eq_configured] at connects
  refine ⟨connects, fun invocation mode resolves => ?_⟩
  have connected : (surroundings.collaborators
      (surroundings.revisionLimit invocation.resolve).result).connect.result = _ := connects
  have seen := seen_run_of_connected resolves connected
  rw [← surroundings.seen_carryOut, toBackend, result_build] at seen
  exact concludes_of_seen seen

/-- From the launch of a process to its build and to the run of the build: the outcome tells how the
process ended or that the limit passed first, reading its request makes no difference to it, code
and events follow, and the limit is the one that the settings give. -/
theorem build_process :
    (∀ (backend : ProcessBackend) (launch : Command → Launch) (request : Request),
      backend.Classified (launch (backend.commandFor request))
        (backend.build launch request).result) ∧
      (∀ (backend : ProcessBackend) (launch other : Command → Launch) (request : Request),
        (launch (backend.commandFor request)).SameButRead (other (backend.commandFor request)) →
          (backend.build launch request).result = (backend.build other request).result) ∧
      (∀ (backend : ProcessBackend) (launch : Command → Launch) (invocation : Invocation)
        (collaborators : Collaborators) (mode : Mode), invocation.resolve = .build mode →
          collaborators.connect.result = .ok (backend.toBackend launch) →
            backend.Concludes (launch (backend.commandFor (invocation.request mode)))
              (invocation.run collaborators)) ∧
      ∀ (surroundings : Surroundings) (loaded : Settings.Loaded),
        surroundings.load.result = .ok loaded →
          Builds surroundings (configured loaded.settings) := by
  refine ⟨fun backend launch request => ?_, fun backend launch other request same => ?_, ?_, ?_⟩
  · rw [result_build]
    exact classified_statusOfLaunch _
  · rw [result_build, result_build, statusOfLaunch_congr same]
  · intro backend launch invocation collaborators mode resolves connected
    have seen := seen_run_of_connected resolves connected
    rw [toBackend, result_build] at seen
    exact concludes_of_seen seen
  · exact fun surroundings loaded loads => builds_of_loads loads

/-- A compiler that fails after 20 ms, whatever has become of its request. -/
def unwilling (delivery : Delivery) (sent : Duration) : Command → Launch := fun _ =>
  .started ⟨delivery, sent, .exited 3, .ofMilliseconds 20,
    [(.ofMilliseconds 10, .errorOutput "no")]⟩

/-- A compiler that leaves its request unread for two seconds, until writing it fails. -/
def stuck : Command → Launch := fun _ =>
  .started ⟨.failed (.system .permissionDenied), .ofSeconds 2, .killed, .ofSeconds 3, []⟩

/-- Settings that give a build one second. -/
def hurriedDocument : String := "backend.timeout_secs=1"

/-- Surroundings in which these settings are found. -/
def hurried (launch : Command → Launch) : Surroundings where
  read _ := .ok hurriedDocument
  environment _ := none
  configRoot := none
  launch := launch
  lookup := .refused (.system .notFound)

/-- The document of the witness, through the whole reader of settings. -/
theorem hurried_loads (launch : Command → Launch) :
    (hurried launch).load.result =
      .ok ⟨{ backend := { timeoutSeconds := 1 } }, .workingDirectory⟩ := by
  have loads : (Settings.load (fun _ => .ok hurriedDocument) (fun _ => none) none).result =
      .ok ⟨{ backend := { timeoutSeconds := 1 } }, .workingDirectory⟩ := by
    decide +kernel
  exact loads

/-- One second is enough for a compiler that fails, and not for one that is stuck. -/
theorem build_unwilling :
    let invocation : Invocation := { files := ["main.tact"] }
    let backend : ProcessBackend := ⟨"tact-compiler", [], some ⟨1000000000⟩⟩
    let unread := unwilling .closed (.ofMilliseconds 20)
    let read := unwilling .complete (.ofMilliseconds 5)
    (backend.build unread (invocation.request .default)).result =
        (backend.build read (invocation.request .default)).result ∧
      (invocation.run ((hurried unread).collaborators ⟨0⟩)).result.number = 30 ∧
        ((hurried unread).carryOut invocation).result.number = 30 ∧
          ((hurried unread).carryOut invocation).events = [] ∧
          (backend.build stuck (invocation.request .default)).result =
            .error (.timeout "tact-compiler" ⟨1000000000⟩) ∧
            ((hurried stuck).carryOut invocation).result.number = 1 := by
  intro invocation backend unread read
  have resolves : invocation.resolve = .build .default := rfl
  obtain ⟨classified, same, concludes, builds⟩ := build_process
  have unwillingBuilds := builds _ _ (hurried_loads unread)
  have unwillingConcludes := unwillingBuilds.concludes invocation .default resolves
  have stuckConcludes := (builds _ _ (hurried_loads stuck)).concludes invocation .default resolves
  have soon (span : Nat) (early : span < 1000) :
      (Duration.ofMilliseconds span).Before backend.limit := by
    rintro _ ⟨⟩
    exact Nat.mul_lt_mul_of_pos_right early (by decide)
  have exits : (unread (backend.commandFor (invocation.request .default))).ExitsInTime
      backend.limit 3 :=
    ⟨_, rfl, .inr rfl, soon 20 (by decide), soon 20 (by decide), rfl⟩
  have late : (backend.build stuck (invocation.request .default)).result =
      .error (.timeout "tact-compiler" ⟨1000000000⟩) :=
    ((classified backend stuck _).timeout _ _).mpr ⟨rfl, rfl, _, rfl, .inl (by decide)⟩
  have unfinished (status : Nat) :
      ¬(stuck (backend.commandFor (invocation.request .default))).ExitsInTime backend.limit
        status := by
    rintro ⟨_, ⟨⟩, ends⟩
    cases ends.fate
  refine ⟨?_, ?_, ?_, unwillingConcludes.silent 3 exits, late, ?_⟩
  · exact same backend unread read _ (.started (.inr rfl) (.inl rfl) rfl rfl)
  · have concluded := concludes backend unread invocation ((hurried unread).collaborators ⟨0⟩)
      .default resolves unwillingBuilds.connects
    exact concluded.failure.mpr ⟨3, exits, by decide⟩
  · exact unwillingConcludes.failure.mpr ⟨3, exits, by decide⟩
  · exact (stuckConcludes.fault unfinished).1

end ProcessBackend

end CompilerFront
