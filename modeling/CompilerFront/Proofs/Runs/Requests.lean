import CompilerFront.Proofs.Runs.Contract

/-!
Contract: a request that reaches a backend says what the invocation asks for, and all of it.

Owns:
- `ModeChoice`, the mode flags that lead to each mode;
- `Faithful`, what a request has in common with the invocation it is made from;
- `faithful_of_asked`, that every request a run hands to a backend is faithful and belongs to one
  invocation only.

Making a request keeps the first file and drops the rest, so this rests on the checks in front of
it, which the row in `Invocation.resolve` makes.
-/

namespace CompilerFront

namespace Invocation

/-- The mode flags that lead to a mode: its own and no other. -/
inductive ModeChoice (invocation : Invocation) : Mode → Prop where
  | default (check : invocation.check = false) (func : invocation.func = false)
      (withDecompilation : invocation.withDecompilation = false) : ModeChoice invocation .default
  | checkOnly (check : invocation.check = true) (func : invocation.func = false)
      (withDecompilation : invocation.withDecompilation = false) : ModeChoice invocation .checkOnly
  | funcOnly (check : invocation.check = false) (func : invocation.func = true)
      (withDecompilation : invocation.withDecompilation = false) : ModeChoice invocation .funcOnly
  | fullWithDecompilation (check : invocation.check = false) (func : invocation.func = false)
      (withDecompilation : invocation.withDecompilation = true) :
      ModeChoice invocation .fullWithDecompilation

variable {invocation other : Invocation}

/-- Three flags in a fixed order of rank give a mode of their own when no two of them are set. -/
theorem modeChoice_mode (oneMode : invocation.modeFlagCount ≤ 1) :
    invocation.ModeChoice invocation.mode := by
  unfold modeFlagCount at oneMode
  unfold mode
  cases check : invocation.check <;> cases func : invocation.func <;>
    cases withDecompilation : invocation.withDecompilation <;>
    simp only [check, func, withDecompilation, Bool.toNat_true, Bool.toNat_false] at oneMode
  case false.false.false => exact .default check func withDecompilation
  case true.false.false => exact .checkOnly check func withDecompilation
  case false.true.false => exact .funcOnly check func withDecompilation
  case false.false.true => exact .fullWithDecompilation check func withDecompilation
  -- Two flags at once count for two.
  all_goals omega

/-- A backend is told the mode of the one flag that is set, and none when none is. -/
structure Told (invocation : Invocation) (mode : Option Mode) : Prop where
  nothing : mode = none ↔
    ¬invocation.check ∧ ¬invocation.func ∧ ¬invocation.withDecompilation
  checkOnly : mode = some .checkOnly ↔
    invocation.check ∧ ¬invocation.func ∧ ¬invocation.withDecompilation
  funcOnly : mode = some .funcOnly ↔
    ¬invocation.check ∧ invocation.func ∧ ¬invocation.withDecompilation
  fullWithDecompilation : mode = some .fullWithDecompilation ↔
    ¬invocation.check ∧ ¬invocation.func ∧ invocation.withDecompilation
  notDefault : mode ≠ some .default

theorem ModeChoice.told {mode : Mode} (choice : invocation.ModeChoice mode) :
    invocation.Told mode.selector := by
  cases choice <;> constructor <;> simp [Mode.selector, *]

theorem ModeChoice.modeFlagCount_pos {mode : Mode} (choice : invocation.ModeChoice mode)
    (told : mode.selector.isSome) : 0 < invocation.modeFlagCount := by
  cases choice with
  | default => cases told
  | _ => simp [modeFlagCount, *]

/-- A mode is chosen in one way only, so it tells the three flags. -/
theorem ModeChoice.flags_eq {mode : Mode} (choice : invocation.ModeChoice mode)
    (otherChoice : other.ModeChoice mode) :
    invocation.check = other.check ∧ invocation.func = other.func ∧
      invocation.withDecompilation = other.withDecompilation := by
  cases choice <;> cases otherChoice <;> simp [*]

theorem files_eq_toList_head? (oneFile : invocation.files.length ≤ 1) :
    invocation.files = invocation.files.head?.toList := by
  match files : invocation.files with
  | [] => rfl
  | [_] => rfl
  | _ :: _ :: _ => simp [files] at oneFile

theorem hasSource_iff :
    invocation.hasSource = true ↔ invocation.files.head?.isSome ∨ invocation.config.isSome := by
  rw [List.isSome_head?]
  simp [hasSource, or_comm]

end Invocation

theorem Mode.selector_injective {mode other : Mode} (same : mode.selector = other.selector) :
    mode = other := by
  cases mode <;> cases other <;> first | rfl | cases same

/-- A request says what an invocation asks for: no file is lost, every field has its value, and
what has to go together goes together. -/
structure Faithful (invocation : Invocation) (request : Request) : Prop where
  files : request.fileName.toList = invocation.files
  config : request.configPath = invocation.config
  projects : request.projectNames = invocation.projects
  quiet : request.suppressLog = invocation.quiet
  mode : invocation.Told request.mode
  oneMode : invocation.modeFlagCount ≤ 1
  exclusive : ¬(request.fileName.isSome ∧ request.configPath.isSome)
  named : request.fileName.isSome ∨ request.configPath.isSome ∨ request.projectNames ≠ []
  sourced : request.mode.isSome → request.fileName.isSome ∨ request.configPath.isSome

namespace Invocation

variable {invocation other : Invocation}

theorem Buildable.faithful (buildable : invocation.Buildable) :
    Faithful invocation (invocation.request invocation.mode) := by
  have choice := modeChoice_mode buildable.oneMode
  constructor
  case files => exact (files_eq_toList_head? buildable.oneFile).symm
  case config => rfl
  case projects => rfl
  case quiet => rfl
  case mode => exact choice.told
  case oneMode => exact buildable.oneMode
  case exclusive =>
    rintro ⟨hasFile, hasConfig⟩
    exact buildable.exclusive ⟨hasConfig, List.isSome_head?.mp hasFile⟩
  case named =>
    rcases buildable.named with source | projects
    · rcases hasSource_iff.mp source with hasFile | hasConfig
      · exact .inl hasFile
      · exact .inr (.inl hasConfig)
    · exact .inr (.inr projects)
  case sourced =>
    intro told
    rcases buildable.sourced with noFlag | source
    · exact absurd noFlag (Nat.ne_of_gt (choice.modeFlagCount_pos told))
    · exact hasSource_iff.mp source

/-- A request leaves nothing of its invocation open. -/
theorem Buildable.eq_of_request (buildable : invocation.Buildable)
    (otherBuildable : other.Buildable)
    (same : invocation.request invocation.mode = other.request other.mode) :
    invocation = other := by
  have faithful := buildable.faithful
  have otherFaithful := otherBuildable.faithful
  rw [← same] at otherFaithful
  have modes : invocation.mode = other.mode :=
    Mode.selector_injective (congrArg Request.mode same)
  have choice := modeChoice_mode buildable.oneMode
  rw [modes] at choice
  obtain ⟨check, func, withDecompilation⟩ :=
    choice.flags_eq (modeChoice_mode otherBuildable.oneMode)
  apply Invocation.ext
  case config => exact faithful.config.symm.trans otherFaithful.config
  case projects => exact faithful.projects.symm.trans otherFaithful.projects
  case quiet => exact faithful.quiet.symm.trans otherFaithful.quiet
  case files => exact faithful.files.symm.trans otherFaithful.files
  case check => exact check
  case func => exact func
  case withDecompilation => exact withDecompilation
  -- A build asks for nothing else.
  case expression => exact buildable.noEvaluation.trans otherBuildable.noEvaluation.symm
  case version => exact buildable.noVersion.trans otherBuildable.noVersion.symm
  case help => exact buildable.noHelp.trans otherBuildable.noHelp.symm

end Invocation

/-- Only builds hand a request to a backend, and it is their own. -/
theorem buildable_of_asked {invocation : Invocation} {collaborators : Collaborators}
    {request : Request}
    (asked : .build request ∈ (invocation.run collaborators).questions) :
    invocation.Buildable ∧ invocation.request invocation.mode = request := by
  have course := course_run invocation collaborators
  obtain ⟨mode, resolves, made⟩ :=
    Invocation.question?_eq_build_iff.mp (course.question?_of_mem asked)
  obtain ⟨buildable, rfl⟩ := Invocation.resolve_eq_build_iff.mp resolves
  exact ⟨buildable, made⟩

/-- Every request that a run hands to a backend is faithful, and no other invocation than the one
that is run leads to it. -/
theorem faithful_of_asked {invocation : Invocation} {collaborators : Collaborators}
    {request : Request}
    (asked : .build request ∈ (invocation.run collaborators).questions) :
    Faithful invocation request ∧
      ∀ (other : Invocation) (others : Collaborators),
        .build request ∈ (other.run others).questions → other = invocation := by
  obtain ⟨buildable, rfl⟩ := buildable_of_asked asked
  refine ⟨buildable.faithful, ?_⟩
  intro other others otherAsked
  obtain ⟨otherBuildable, same⟩ := buildable_of_asked otherAsked
  exact otherBuildable.eq_of_request buildable same

/-- Collaborators whose backend has no objection to any build. -/
def Collaborators.agreeing : Collaborators where
  revision := pure none
  connect := pure (.ok
    { build := fun _ => pure (.ok true)
      evaluate := fun _ => pure (.ok (.failure "no evaluator")) })
  version := "1.6.0"
  help := "Usage: tact [OPTIONS] [FILE]..."

/-- A request to check one file quietly: two fields besides the name are there, and the others are
not. -/
theorem faithful_checked_file :
    .build { fileName := some "main.tact", mode := some .checkOnly, suppressLog := true } ∈
        (Invocation.run { check := true, quiet := true, files := ["main.tact"] }
          Collaborators.agreeing).questions ∧
      Faithful { check := true, quiet := true, files := ["main.tact"] }
        { fileName := some "main.tact", mode := some .checkOnly, suppressLog := true } := by
  have asked : .build
      { fileName := some "main.tact", mode := some .checkOnly, suppressLog := true } ∈
      (Invocation.run { check := true, quiet := true, files := ["main.tact"] }
        Collaborators.agreeing).questions := by
    decide
  exact ⟨asked, (faithful_of_asked asked).1⟩

end CompilerFront
