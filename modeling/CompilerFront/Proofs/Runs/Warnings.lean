import CompilerFront.Proofs.Runs.Contract
import CompilerFront.Proofs.Runs.Exclusive
import CompilerFront.Proofs.Runs.Priority

/-!
Contract: build flags are what an invocation needs to be more than a bare one.

Owns:
- `Invocation.cleared`, an invocation that asks neither for help, the version nor an evaluation;
- `Collaborators.helpShown`, all that is seen of a bare invocation;
- `FlagsAgree` and `flags_agree`, by which the test for build flags and the row of checks agree, and
  an evaluation warns of flags just when the invocation would do more than a bare one without it.
-/

namespace CompilerFront

namespace Invocation

/-- The invocation without the wish for help, the version or an evaluation. -/
def cleared (invocation : Invocation) : Invocation :=
  { invocation with help := false, version := false, expression := none }

def withoutEvaluation (invocation : Invocation) : Invocation :=
  { invocation with expression := none }

variable {invocation : Invocation} {collaborators : Collaborators} {expression : String}

theorem hasBuildFlags_eq_false_iff :
    invocation.hasBuildFlags = false ↔
      invocation.config = none ∧ invocation.files = [] ∧ invocation.projects = [] ∧
        invocation.ModeChoice .default := by
  constructor
  · intro noFlags
    simp only [hasBuildFlags, Bool.or_eq_false_iff, Option.isSome_eq_false_iff,
      Option.isNone_iff_eq_none, Bool.not_eq_false', List.isEmpty_iff] at noFlags
    obtain ⟨⟨⟨⟨⟨noConfig, noProject⟩, noDecompilation⟩, noFunc⟩, noCheck⟩, noFile⟩ := noFlags
    exact ⟨noConfig, noFile, noProject, .default noCheck noFunc noDecompilation⟩
  · rintro ⟨noConfig, noFile, noProject, choice⟩
    cases choice with
    | default noCheck noFunc noDecompilation =>
      simp [hasBuildFlags, noConfig, noFile, noProject, noCheck, noFunc, noDecompilation]

/-- With nothing else asked for, the row of checks ends at the bare invocation just when there is no
build flag. -/
theorem resolve_cleared_eq_bare_iff :
    invocation.cleared.resolve = .bare ↔ invocation.hasBuildFlags = false := by
  rw [hasBuildFlags_eq_false_iff]
  constructor
  · intro isBare
    obtain ⟨noConfig, noFile, noProject, choice⟩ := (resolve_eq_iff_firstFits.mp isBare).fits
    cases choice with
    | default noCheck noFunc noDecompilation =>
      exact ⟨noConfig, noFile, noProject, .default noCheck noFunc noDecompilation⟩
  · rintro ⟨noConfig, noFile, noProject, choice⟩
    cases choice with
    | default noCheck noFunc noDecompilation =>
      simp [cleared, resolve, resolveBuild, hasSource, modeFlagCount, noConfig, noFile, noProject,
        noCheck, noFunc, noDecompilation]

theorem hasBuildFlags_iff :
    invocation.hasBuildFlags = true ↔ invocation.cleared.resolve ≠ .bare := by
  rw [ne_eq, resolve_cleared_eq_bare_iff, Bool.not_eq_false]

theorem Evaluates.withoutEvaluation_eq (evaluates : invocation.Evaluates expression) :
    invocation.withoutEvaluation = invocation.cleared := by
  simp [withoutEvaluation, cleared, evaluates.noHelp, evaluates.noVersion]

/-- What is cleared asks for nothing that comes before the build. -/
theorem resolve_cleared_cases (invocation : Invocation) :
    invocation.cleared.resolve = .bare ∨ (∃ mode, invocation.cleared.resolve = .build mode) ∨
      ∃ fault, invocation.cleared.resolve = .invalid fault := by
  have first := resolve_eq_iff_firstFits.mp (rfl : invocation.cleared.resolve = _)
  cases resolves : invocation.cleared.resolve with
  | help | version | evaluate _ =>
    rw [resolves] at first
    cases first.fits
  | bare => exact .inl rfl
  | build mode => exact .inr (.inl ⟨mode, rfl⟩)
  | invalid fault => exact .inr (.inr ⟨fault, rfl⟩)

end Invocation

/-! ## Runs -/

/-- All that is seen of a run that shows the help text and does nothing else. -/
def Collaborators.helpShown (collaborators : Collaborators) : Seen :=
  ⟨.success, [.help collaborators.help], [], 0⟩

/-- A run starts a build: its invocation resolves to one, and a backend is asked for. -/
def Invocation.StartsBuild (invocation : Invocation) (collaborators : Collaborators) : Prop :=
  (∃ mode, invocation.resolve = .build mode) ∧ (invocation.run collaborators).connects = 1

/-- A run reports a usage fault and does nothing else. -/
def Invocation.ReportsUsage (invocation : Invocation) (collaborators : Collaborators) : Prop :=
  ∃ fault : UsageFault, (invocation.run collaborators).seen =
    ⟨.usage, [.error fault.message, .usage collaborators.help], [], 0⟩

/-- A run warns that build flags are ignored. -/
def Invocation.WarnsOfFlags (invocation : Invocation) (collaborators : Collaborators) : Prop :=
  .warning ignoredFlagsWarning ∈ (invocation.run collaborators).events

section Runs

variable {invocation : Invocation} {collaborators : Collaborators} {expression : String}

/-- The warning is shown before the backend is connected, so a refusal does not hide it. -/
theorem warnsOfFlags_iff (evaluates : invocation.Evaluates expression) :
    invocation.WarnsOfFlags collaborators ↔ invocation.hasBuildFlags = true := by
  constructor
  · intro warned
    have counted := (run_contract invocation collaborators).warnings
    have positive := List.count_pos_iff.mpr (List.mem_map_of_mem (f := Event.kind) warned)
    by_contra noFlags
    rw [if_neg fun flagged => noFlags flagged.2] at counted
    exact Nat.ne_of_gt positive counted
  · intro flagged
    have seen : (invocation.run collaborators).seen = _ :=
      Invocation.seen_run_evaluate evaluates.resolves
    have events := congrArg Seen.events seen
    rw [Invocation.warnings, if_pos flagged] at events
    show .warning ignoredFlagsWarning ∈ (invocation.run collaborators).seen.events
    rw [events]
    exact List.mem_append_left _ List.mem_cons_self

theorem seen_run_bare (resolves : invocation.resolve = .bare) :
    (invocation.run collaborators).seen = collaborators.helpShown := by
  simp [Invocation.run, resolves, Collaborators.helpShown]

theorem seen_run_invalid {fault : UsageFault} (resolves : invocation.resolve = .invalid fault) :
    (invocation.run collaborators).seen =
      ⟨.usage, [.error fault.message, .usage collaborators.help], [], 0⟩ := by
  simp [Invocation.run, resolves, Collaborators.seen_runUsageFault]

theorem connects_run_build {mode : Mode} (resolves : invocation.resolve = .build mode) :
    (invocation.run collaborators).connects = 1 := by
  have connects := (run_contract invocation collaborators).connects
  rw [resolves] at connects
  exact connects

/-- What asks for nothing before the build does something just when it is not bare. -/
theorem seen_run_cleared_ne_iff :
    (invocation.cleared.run collaborators).seen ≠ collaborators.helpShown ↔
      invocation.cleared.resolve ≠ .bare := by
  constructor
  · exact mt seen_run_bare
  · intro notBare shown
    rcases invocation.resolve_cleared_cases with isBare | ⟨mode, isBuild⟩ | ⟨fault, isInvalid⟩
    · exact notBare isBare
    · have connects : (invocation.cleared.run collaborators).connects = 1 :=
        connects_run_build isBuild
      have none := congrArg Seen.connects shown
      exact Nat.one_ne_zero (connects.symm.trans none)
    · rw [seen_run_invalid isInvalid] at shown
      cases shown

/-- Without help, version and expression, an invocation either is bare or is taken for an attempt at
a build. -/
theorem startsBuild_or_reportsUsage_iff :
    (invocation.cleared.StartsBuild collaborators ∨ invocation.cleared.ReportsUsage collaborators) ↔
      invocation.cleared.resolve ≠ .bare := by
  constructor
  · rintro (⟨⟨mode, isBuild⟩, -⟩ | ⟨fault, reported⟩) isBare
    · rw [isBare] at isBuild
      cases isBuild
    · rw [seen_run_bare isBare] at reported
      cases reported
  · intro notBare
    rcases invocation.resolve_cleared_cases with isBare | ⟨mode, isBuild⟩ | ⟨fault, isInvalid⟩
    · exact absurd isBare notBare
    · exact .inl ⟨⟨mode, isBuild⟩, connects_run_build isBuild⟩
    · exact .inr ⟨fault, seen_run_invalid isInvalid⟩

end Runs

/-- The test for build flags agrees with the row of checks: flags are what keeps an invocation that
asks for nothing else from being bare. An evaluation warns that flags are ignored just when without
it the run would not be one that shows the help text, but a build or a report of a usage fault. -/
structure FlagsAgree (invocation : Invocation) : Prop where
  flags : invocation.hasBuildFlags = true ↔ invocation.cleared.resolve ≠ .bare
  warned : ∀ expression, invocation.Evaluates expression → ∀ collaborators,
    (invocation.WarnsOfFlags collaborators ↔
      (invocation.withoutEvaluation.run collaborators).seen ≠ collaborators.helpShown)
  instead : ∀ expression, invocation.Evaluates expression → ∀ collaborators,
    (invocation.WarnsOfFlags collaborators ↔
      invocation.withoutEvaluation.StartsBuild collaborators ∨
        invocation.withoutEvaluation.ReportsUsage collaborators)

/-- For every invocation the two agree: the flags that an evaluation warns of are those that would
have had an effect without it. -/
theorem flags_agree (invocation : Invocation) : FlagsAgree invocation where
  flags := invocation.hasBuildFlags_iff
  warned expression evaluates collaborators := by
    rw [evaluates.withoutEvaluation_eq, warnsOfFlags_iff evaluates, seen_run_cleared_ne_iff,
      Invocation.hasBuildFlags_iff]
  instead expression evaluates collaborators := by
    rw [evaluates.withoutEvaluation_eq, warnsOfFlags_iff evaluates,
      startsBuild_or_reportsUsage_iff, Invocation.hasBuildFlags_iff]

end CompilerFront
