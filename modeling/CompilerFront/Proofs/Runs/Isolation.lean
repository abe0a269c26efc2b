import CompilerFront.Program
import CompilerFront.Proofs.Runs.Course

/-!
Contract: what cannot disturb the runs that only inform.

Owns:
- `Surroundings.carryOutBy`, the program over any way to load settings, of which the program itself
  is one case; a loader that is used leaves its asides in the journal;
- `RevisionLookup.Reveals`, when the version control names a revision in time;
- `Isolated` and `carryOut_isolated`: help, the bare call and usage faults depend on nothing outside
  the program, and the version text on nothing but the revision and its limit.

Does not own: what is shown for a usage fault (`CompilerFront.Proofs.Runs.Contract`).
-/

namespace CompilerFront

open Settings (Loaded)

/-- The run reaches for nothing outside the program. -/
def Resolution.isSelfContained : Resolution → Bool
  | .help | .bare | .invalid _ => true
  | .version | .evaluate _ | .build _ => false

namespace Surroundings

/-! ## Loaders -/

abbrev Loader : Type := Discreet (Except SettingsFault Loaded)

section Loading

variable (surroundings : Surroundings) (load : Loader)

def connectBy : Discreet (Except SettingsFault Backend) := do
  match ← load with
  | .error fault => return .error fault
  | .ok loaded =>
    let backend := ProcessBackend.ofSettings loaded.settings.backend
    return .ok (backend.toBackend surroundings.launch)

def revisionLimitBy (resolution : Resolution) : Discreet Duration := do
  match resolution with
  | .version =>
    match ← load with
    | .ok loaded => return loaded.settings.revision.limit
    | .error fault =>
      Discreet.note (.settingsUnavailable fault)
      return ({} : Settings.RevisionSettings).limit
  | _ => return ({} : Settings.RevisionSettings).limit

def carryOutBy (invocation : Invocation) : Journaled ExitCode := do
  let limit ← revisionLimitBy load invocation.resolve
  invocation.run
    { surroundings.collaborators limit with connect := surroundings.connectBy load }

end Loading

/-- The settings enter a run through one door, so one can ask what happens with others behind it. -/
theorem carryOut_eq_carryOutBy (surroundings : Surroundings) (invocation : Invocation) :
    surroundings.carryOut invocation = surroundings.carryOutBy surroundings.load invocation := rfl

/-- Whatever the surroundings and the loader are, a run that reaches for nothing goes the same way,
asides included. -/
theorem carryOutBy_of_isSelfContained {invocation : Invocation}
    (contained : invocation.resolve.isSelfContained) (here there : Surroundings)
    (load other : Loader) :
    here.carryOutBy load invocation = there.carryOutBy other invocation := by
  unfold carryOutBy Invocation.run
  cases resolves : invocation.resolve with
  | help | bare => rfl
  | invalid fault => rfl
  | version | evaluate | build => rw [resolves] at contained; cases contained

theorem carryOut_of_isSelfContained {invocation : Invocation}
    (contained : invocation.resolve.isSelfContained) (here there : Surroundings) :
    here.carryOut invocation = there.carryOut invocation := by
  rw [carryOut_eq_carryOutBy, carryOut_eq_carryOutBy]
  exact carryOutBy_of_isSelfContained contained here there here.load there.load

/-! ## Visible part of a run -/

section Seen

variable (surroundings : Surroundings) {invocation : Invocation}

/-- The loading for the version text is not seen; all that it leaves is a limit. -/
theorem seen_carryOut : (surroundings.carryOut invocation).seen =
    (invocation.run (surroundings.collaborators
      (surroundings.revisionLimit invocation.resolve).result)).seen := by
  simp [carryOut]

theorem seen_carryOut_help (resolves : invocation.resolve = .help ∨ invocation.resolve = .bare) :
    (surroundings.carryOut invocation).seen = ⟨.success, [.help usageText], [], 0⟩ := by
  rw [seen_carryOut, Invocation.run]
  rcases resolves with resolves | resolves <;> rw [resolves] <;> rfl

theorem seen_carryOut_invalid {fault : UsageFault}
    (resolves : invocation.resolve = .invalid fault) :
    (surroundings.carryOut invocation).seen =
      ⟨.usage, [.error fault.message, .usage usageText], [], 0⟩ := by
  rw [seen_carryOut, Invocation.run, resolves]
  rfl

theorem seen_carryOut_version (resolves : invocation.resolve = .version) :
    (surroundings.carryOut invocation).seen =
      ⟨.success, [.version (versionText programVersion
        (surroundings.lookup.revision (surroundings.revisionLimit .version).result).result)], [],
        0⟩ := by
  rw [seen_carryOut, resolves, Invocation.run, resolves]
  simp [Collaborators.seen_runVersion, collaborators]

end Seen

end Surroundings

/-! ## Revisions -/

/-- The version control succeeds in time, and prints an identifier between blanks. -/
def RevisionLookup.Reveals (lookup : RevisionLookup) (limit : Duration) (identifier : String) :
    Prop :=
  ∃ answer text, lookup = .answered answer ∧ answer.fate = .exited 0 ∧
    answer.lifetime.nanoseconds < limit.nanoseconds ∧ answer.printed = Text.Raw.ofText text ∧
    Text.trim text = identifier ∧ identifier ≠ ""

theorem revisionIn_eq_some_iff {printed : Text.Raw} {identifier : String} :
    revisionIn printed = some identifier ↔
      ∃ text, printed = Text.Raw.ofText text ∧ Text.trim text = identifier ∧ identifier ≠ "" := by
  simp only [← Text.Raw.toText?_eq_some_iff, revisionIn]
  cases printed.toText? with
  | none => simp
  | some text =>
    simp only [Option.ite_none_left_eq_some, Option.some.injEq, String.isEmpty_iff]
    constructor
    · rintro ⟨given, rfl⟩
      exact ⟨text, rfl, rfl, given⟩
    · rintro ⟨_, rfl, rfl, given⟩
      exact ⟨given, rfl⟩

namespace RevisionLookup

variable {limit : Duration} {identifier : String}

theorem not_reveals_refused {source : IoFault} :
    ¬(RevisionLookup.refused source).Reveals limit identifier := by
  rintro ⟨_, _, answers, -⟩
  cases answers

theorem reveals_answered_iff {answer : RevisionAnswer} :
    (RevisionLookup.answered answer).Reveals limit identifier ↔
      answer.fate = .exited 0 ∧ answer.lifetime.within (some limit) ∧
        revisionIn answer.printed = some identifier := by
  simp only [Reveals, revisionIn_eq_some_iff, Duration.within, decide_eq_true_eq]
  constructor
  · rintro ⟨_, text, ⟨⟩, succeeds, early, prints, trims, given⟩
    exact ⟨succeeds, early, text, prints, trims, given⟩
  · rintro ⟨succeeds, early, text, prints, trims, given⟩
    exact ⟨answer, text, rfl, succeeds, early, prints, trims, given⟩

/-- A revision is found if git starts, ends well and in time, and prints text that is not blank. -/
theorem revision_eq_some_iff (lookup : RevisionLookup) :
    (lookup.revision limit).result = some identifier ↔ lookup.Reveals limit identifier := by
  cases lookup with
  | refused source =>
    refine iff_of_false ?_ not_reveals_refused
    nofun
  | answered answer =>
    rw [reveals_answered_iff]
    simp only [revision]
    split
    case isTrue early =>
      cases answer.fate with
      | exited status =>
        cases status with
        | zero => simp [early]
        | succ status => simp
      | killed => simp
      | lost source => simp
    case isFalse late => simp [late]

end RevisionLookup

/-! ## Version text -/

theorem versionText_some (version identifier : String) :
    versionText version (some identifier) = version ++ ("\ngit commit: " ++ identifier) :=
  String.append_assoc

/-- The second line is never empty. -/
theorem versionText_some_ne (version identifier : String) :
    versionText version (some identifier) ≠ version := by
  rw [versionText_some, ne_eq, String.append_eq_left_iff, String.append_eq_empty_iff]
  rintro ⟨blank, -⟩
  exact absurd blank (by decide)

theorem versionText_eq_some_iff {version identifier : String} {revision : Option String} :
    versionText version revision = version ++ "\ngit commit: " ++ identifier ↔
      revision = some identifier := by
  rw [String.append_assoc, ← versionText_some]
  cases revision with
  | none => exact iff_of_false (versionText_some_ne version identifier).symm nofun
  | some known => rw [versionText_some, versionText_some, String.append_right_inj,
      String.append_right_inj, Option.some.injEq]

theorem versionText_eq_none_iff {version : String} {revision : Option String} :
    versionText version revision = version ↔ revision = none := by
  cases revision with
  | none => exact iff_of_true rfl rfl
  | some known => exact iff_of_false (versionText_some_ne version known) nofun

namespace Surroundings

/-- The limit for the revision: as many milliseconds as the settings give, or two thousand of them
when no settings can be loaded. -/
def timeLimit (surroundings : Surroundings) : Duration :=
  match surroundings.load.result with
  | .ok loaded => ⟨loaded.settings.revision.timeoutMilliseconds * 1000000⟩
  | .error _ => ⟨2000 * 1000000⟩

/-- What stands for the version: the revision is on a second line exactly if it is revealed. -/
structure NamesVersion (surroundings : Surroundings) (text : String) : Prop where
  revised : ∀ identifier, text = programVersion ++ "\ngit commit: " ++ identifier ↔
    surroundings.lookup.Reveals surroundings.timeLimit identifier
  plain : text = programVersion ↔
    ∀ identifier, ¬surroundings.lookup.Reveals surroundings.timeLimit identifier

theorem result_revisionLimit_version (surroundings : Surroundings) :
    (surroundings.revisionLimit .version).result = surroundings.timeLimit := by
  unfold revisionLimit timeLimit
  rw [Discreet.result_bind]
  cases surroundings.load.result with
  | ok loaded => exact loaded.settings.revision.limit_eq
  | error fault => exact Settings.RevisionSettings.limit_eq {}

/-- The limit that the lookup gets is the one that `timeLimit` spells out. -/
theorem namesVersion_versionText (surroundings : Surroundings) :
    surroundings.NamesVersion (versionText programVersion
      (surroundings.lookup.revision surroundings.timeLimit).result) where
  revised identifier := by
    rw [versionText_eq_some_iff, RevisionLookup.revision_eq_some_iff]
  plain := by
    rw [versionText_eq_none_iff, Option.eq_none_iff_forall_ne_some]
    simp only [ne_eq, RevisionLookup.revision_eq_some_iff]

end Surroundings

/-! ## Every run that only informs -/

/-- What is outside the program cannot disturb a run that only informs. Files, variables and
programs are all part of the surroundings that may be exchanged. -/
structure Isolated (invocation : Invocation) : Prop where
  /-- Help, the bare call and usage faults have the same journal everywhere. -/
  unmoved : invocation.resolve.isSelfContained → ∀ here there : Surroundings,
    here.carryOut invocation = there.carryOut invocation
  /-- They have it with any loader in place of the program's own, so none is used. -/
  unloaded : invocation.resolve.isSelfContained →
    ∀ (here there : Surroundings) (load : Surroundings.Loader),
      here.carryOut invocation = there.carryOutBy load invocation
  /-- Their outputs are the same where the same notes are asked for. -/
  outputs : invocation.resolve.isSelfContained →
    ∀ (here there : Surroundings) (colouredNotes : Bool) (colouring : Colouring)
      (arguments : List Text.Raw), Invocation.ofArguments arguments = .ok invocation →
      here.environment notesVariable = there.environment notesVariable →
        runProgram here colouredNotes colouring arguments =
          runProgram there colouredNotes colouring arguments
  /-- What they show is in the program itself. -/
  helps : invocation.resolve = .help ∨ invocation.resolve = .bare →
    ∀ surroundings : Surroundings,
      (surroundings.carryOut invocation).seen = ⟨.success, [.help usageText], [], 0⟩
  reports : ∀ fault, invocation.resolve = .invalid fault → ∀ surroundings : Surroundings,
    (surroundings.carryOut invocation).seen =
      ⟨.usage, [.error fault.message, .usage usageText], [], 0⟩
  /-- A version text is all that is seen of the version, and the run succeeds. -/
  version : invocation.resolve = .version → ∀ surroundings : Surroundings,
    ∃ text, (surroundings.carryOut invocation).seen = ⟨.success, [.version text], [], 0⟩ ∧
      surroundings.NamesVersion text

/-- Help and usage faults read nothing; the version reads settings for its limit only, and does
without them if they fail. -/
theorem carryOut_isolated (invocation : Invocation) : Isolated invocation where
  unmoved := Surroundings.carryOut_of_isSelfContained
  unloaded contained here there load := by
    rw [here.carryOut_eq_carryOutBy]
    exact Surroundings.carryOutBy_of_isSelfContained contained here there here.load load
  outputs contained here there _ _ arguments parsed sameNotes := by
    simp only [runProgram, parsed, sameNotes,
      Surroundings.carryOut_of_isSelfContained contained here there]
  helps resolves surroundings := surroundings.seen_carryOut_help resolves
  reports _ resolves surroundings := surroundings.seen_carryOut_invalid resolves
  version resolves surroundings := by
    refine ⟨_, surroundings.seen_carryOut_version resolves, ?_⟩
    rw [surroundings.result_revisionLimit_version]
    exact surroundings.namesVersion_versionText

end CompilerFront
