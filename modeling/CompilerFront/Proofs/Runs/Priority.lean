import CompilerFront.Proofs.Arguments.RoundTrip
import CompilerFront.Proofs.Runs.Requests

/-!
Contract: the resolution of an invocation is the first in a fixed order that fits it.

Owns:
- `Resolution.Fits`, what each resolution asks of an invocation by itself, and `Resolution.place`,
  its place in the order;
- `Resolution.FirstFits`, of which there is exactly one for every invocation;
- `Within`, by which one invocation sets all that another sets, and perhaps more flags or an
  expression; more never moves the resolution to a later place;
- `shape`, what is left of an invocation when its texts are not read.

Does not own: what a run does with a resolution.
-/

namespace CompilerFront

/-! ## The order -/

namespace Invocation

/-- Two of the three mode flags are set, or all of them. -/
def TwoModes (invocation : Invocation) : Prop :=
  (invocation.check = true ∧ invocation.func = true) ∨
    (invocation.check = true ∧ invocation.withDecompilation = true) ∨
    (invocation.func = true ∧ invocation.withDecompilation = true)

def OneMode (invocation : Invocation) : Prop :=
  ∃ mode, mode ≠ .default ∧ invocation.ModeChoice mode

end Invocation

namespace Resolution

/-- What a resolution asks of an invocation, whatever comes before it in the order. -/
def Fits (invocation : Invocation) : Resolution → Prop
  | .help => invocation.help = true
  | .version => invocation.version = true
  | .evaluate expression => invocation.expression = some expression
  | .invalid .bothConfigAndFile => invocation.config ≠ none ∧ invocation.files ≠ []
  | .invalid .conflictingModes => invocation.TwoModes
  | .invalid .missingConfigOrFile =>
    invocation.OneMode ∧ invocation.config = none ∧ invocation.files = []
  | .invalid .multipleFiles => 1 < invocation.files.length
  | .bare =>
    invocation.config = none ∧ invocation.files = [] ∧ invocation.projects = [] ∧
      invocation.ModeChoice .default
  | .build mode => invocation.ModeChoice mode

/-- The place of a resolution in the order; the least one wins. -/
def place : Resolution → Nat
  | .help => 0
  | .version => 1
  | .evaluate _ => 2
  | .invalid .bothConfigAndFile => 3
  | .invalid .conflictingModes => 4
  | .invalid .missingConfigOrFile => 5
  | .invalid .multipleFiles => 6
  | .bare => 7
  | .build _ => 8

/-- A resolution fits an invocation, and none does that is before it in the order. Nothing of this
mentions how the program looks for it. -/
structure FirstFits (invocation : Invocation) (resolution : Resolution) : Prop where
  fits : resolution.Fits invocation
  first : ∀ other : Resolution, other.place < resolution.place → ¬other.Fits invocation

end Resolution

namespace Invocation

variable {invocation other : Invocation}

/-! ## Mode flags -/

theorem ModeChoice.unique {mode otherMode : Mode} (choice : invocation.ModeChoice mode)
    (otherChoice : invocation.ModeChoice otherMode) : mode = otherMode := by
  cases choice <;> cases otherChoice <;> simp_all

theorem one_lt_modeFlagCount_iff : 1 < invocation.modeFlagCount ↔ invocation.TwoModes := by
  unfold modeFlagCount TwoModes
  cases invocation.check <;> cases invocation.func <;> cases invocation.withDecompilation <;>
    simp

/-- The mode flags conflict, or they choose a mode. -/
theorem modeChoice_of_not_twoModes (single : ¬invocation.TwoModes) :
    invocation.ModeChoice invocation.mode :=
  modeChoice_mode (Nat.le_of_not_lt (mt one_lt_modeFlagCount_iff.mp single))

theorem modeFlagCount_pos_iff {mode : Mode} (choice : invocation.ModeChoice mode) :
    0 < invocation.modeFlagCount ↔ mode ≠ .default := by
  cases choice <;> simp [modeFlagCount, *]

theorem noSource_iff :
    (!invocation.hasSource) = true ↔ invocation.config = none ∧ invocation.files = [] := by
  simp [hasSource]

/-! ## The first that fits -/

/-- No resolution before a place fits. -/
def PassedTo (invocation : Invocation) (place : Nat) : Prop :=
  ∀ resolution : Resolution, resolution.place < place → ¬resolution.Fits invocation

section Passed

variable {place : Nat} (passed : invocation.PassedTo place)

include passed

/-- Behind help, version and evaluation, what is left to decide is the build. -/
theorem PassedTo.resolve_eq (behind : 3 ≤ place) :
    invocation.resolve = invocation.resolveBuild := by
  have noHelp : ¬invocation.help = true := passed .help (Nat.lt_of_lt_of_le (by decide) behind)
  have noVersion : ¬invocation.version = true :=
    passed .version (Nat.lt_of_lt_of_le (by decide) behind)
  have noExpression : invocation.expression = none := by
    apply Option.eq_none_iff_forall_ne_some.mpr
    intro expression
    exact passed (.evaluate expression) (Nat.lt_of_lt_of_le (Nat.lt_succ_self 2) behind)
  rw [resolve, if_neg noHelp, if_neg noVersion, noExpression]

theorem PassedTo.not_both (behind : 4 ≤ place) :
    ¬(invocation.config.isSome && !invocation.files.isEmpty) = true := by
  have noFit := passed (.invalid .bothConfigAndFile) (Nat.lt_of_lt_of_le (by decide) behind)
  simpa [Resolution.Fits, Option.isSome_iff_ne_none] using noFit

theorem PassedTo.not_twoModes (behind : 5 ≤ place) : ¬invocation.TwoModes :=
  passed (.invalid .conflictingModes) (Nat.lt_of_lt_of_le (by decide) behind)

theorem PassedTo.not_missing (behind : 6 ≤ place) :
    ¬(!invocation.hasSource && 0 < invocation.modeFlagCount) = true := by
  have choice := modeChoice_of_not_twoModes (passed.not_twoModes (Nat.le_of_succ_le behind))
  have noFit := passed (.invalid .missingConfigOrFile) (Nat.lt_of_lt_of_le (by decide) behind)
  rw [Bool.and_eq_true, noSource_iff, decide_eq_true_iff, modeFlagCount_pos_iff choice]
  rintro ⟨noSource, asked⟩
  exact noFit ⟨⟨_, asked, choice⟩, noSource⟩

theorem PassedTo.not_multiple (behind : 7 ≤ place) : ¬1 < invocation.files.length :=
  passed (.invalid .multipleFiles) (Nat.lt_of_lt_of_le (by decide) behind)

theorem PassedTo.not_bare (behind : 8 ≤ place) :
    ¬(!invocation.hasSource && invocation.projects.isEmpty) = true := by
  have choice := modeChoice_of_not_twoModes (passed.not_twoModes (by omega))
  have sourced := passed.not_missing (by omega)
  have noFit := passed .bare (Nat.lt_of_lt_of_le (by decide) behind)
  rw [Bool.and_eq_true, decide_eq_true_iff, modeFlagCount_pos_iff choice] at sourced
  rw [Bool.and_eq_true, noSource_iff, List.isEmpty_iff]
  rintro ⟨noSource, noProject⟩
  have noMode : invocation.mode = .default :=
    Decidable.byContradiction fun asked => sourced ⟨noSource_iff.mpr noSource, asked⟩
  rw [noMode] at choice
  exact noFit ⟨noSource.1, noSource.2, noProject, choice⟩

/-- What the row of checks comes to when the first three of them have found nothing. -/
theorem PassedTo.resolve_eq_last (behind : 6 ≤ place) :
    invocation.resolve =
      if 1 < invocation.files.length then .invalid .multipleFiles
      else if !invocation.hasSource && invocation.projects.isEmpty then .bare
      else .build invocation.mode := by
  have single := mt one_lt_modeFlagCount_iff.mp (passed.not_twoModes (by omega))
  rw [passed.resolve_eq (by omega), resolveBuild, if_neg (passed.not_both (by omega)),
    if_neg single, if_neg (passed.not_missing behind)]

end Passed

/-- The first resolution that fits is the one that the row of checks ends with. -/
theorem resolve_of_firstFits {resolution : Resolution} (first : resolution.FirstFits invocation) :
    invocation.resolve = resolution := by
  obtain ⟨fits, passed⟩ := first
  change invocation.PassedTo resolution.place at passed
  cases resolution with
  | help => exact if_pos fits
  | version =>
    have noHelp : ¬invocation.help = true := passed .help Nat.one_pos
    rw [resolve, if_neg noHelp]
    exact if_pos fits
  | evaluate expression =>
    have noHelp : ¬invocation.help = true := passed .help Nat.two_pos
    have noVersion : ¬invocation.version = true := passed .version Nat.one_lt_two
    change invocation.expression = some expression at fits
    rw [resolve, if_neg noHelp, if_neg noVersion, fits]
  | invalid fault =>
    cases fault with
    | bothConfigAndFile =>
      rw [passed.resolve_eq (by decide), resolveBuild, if_pos]
      simpa [Resolution.Fits, Option.isSome_iff_ne_none] using fits
    | conflictingModes =>
      rw [passed.resolve_eq (by decide), resolveBuild, if_neg (passed.not_both (by decide)),
        if_pos (one_lt_modeFlagCount_iff.mpr fits)]
    | missingConfigOrFile =>
      obtain ⟨⟨mode, asked, choice⟩, noSource⟩ := fits
      have single := mt one_lt_modeFlagCount_iff.mp (passed.not_twoModes (by decide))
      rw [passed.resolve_eq (by decide), resolveBuild, if_neg (passed.not_both (by decide)),
        if_neg single, if_pos]
      rw [Bool.and_eq_true, noSource_iff, decide_eq_true_iff, modeFlagCount_pos_iff choice]
      exact ⟨noSource, asked⟩
    | multipleFiles =>
      rw [passed.resolve_eq_last (by decide)]
      exact if_pos fits
  | bare =>
    obtain ⟨noConfig, noFile, noProject, -⟩ := fits
    rw [passed.resolve_eq_last (by decide), if_neg (passed.not_multiple (by decide)), if_pos]
    rw [Bool.and_eq_true, noSource_iff, List.isEmpty_iff]
    exact ⟨⟨noConfig, noFile⟩, noProject⟩
  | build mode =>
    have behind : 8 ≤ (Resolution.build mode).place := Nat.le_refl 8
    have chosen := modeChoice_of_not_twoModes (passed.not_twoModes (by omega))
    rw [passed.resolve_eq_last (by omega), if_neg (passed.not_multiple (by omega)),
      if_neg (passed.not_bare behind), chosen.unique fits]

/-- Some resolution fits: either two mode flags are set, or the flags choose a mode. -/
theorem exists_fits (invocation : Invocation) :
    ∃ resolution : Resolution, resolution.Fits invocation := by
  by_cases two : invocation.TwoModes
  · exact ⟨.invalid .conflictingModes, two⟩
  · exact ⟨.build invocation.mode, modeChoice_of_not_twoModes two⟩

/-- Some resolution always fits, since a build is what is left when no fault does. -/
theorem exists_firstFits (invocation : Invocation) :
    ∃ resolution : Resolution, resolution.FirstFits invocation := by
  obtain ⟨resolution, fits⟩ := invocation.exists_fits
  induction place : resolution.place using Nat.strongRecOn generalizing resolution with
  | ind place smaller =>
    subst place
    by_cases earlier : ∃ other : Resolution,
        other.place < resolution.place ∧ other.Fits invocation
    · obtain ⟨other, before, otherFits⟩ := earlier
      exact smaller other.place before other otherFits rfl
    · exact ⟨resolution, fits, fun other before otherFits => earlier ⟨other, before, otherFits⟩⟩

/-- The chain of tests and the order of places describe the same choice. -/
theorem resolve_eq_iff_firstFits {resolution : Resolution} :
    invocation.resolve = resolution ↔ resolution.FirstFits invocation := by
  constructor
  · rintro rfl
    obtain ⟨resolution, first⟩ := invocation.exists_firstFits
    rwa [resolve_of_firstFits first]
  · exact resolve_of_firstFits

/-! ## More flags -/

/-- All that an invocation sets is set in another one, which names the same things to build. -/
structure Within (invocation other : Invocation) : Prop where
  flags : ∀ flag, invocation.isSet flag = true → other.isSet flag = true
  expression : invocation.expression.isSome → other.expression.isSome
  config : other.config = invocation.config
  projects : other.projects = invocation.projects
  files : other.files = invocation.files

theorem within_set (invocation : Invocation) (flag : Flag) :
    invocation.Within (invocation.set flag) where
  flags other isSet := by rw [isSet_set, isSet, Bool.or_true]
  expression := by cases flag <;> exact id
  config := by cases flag <;> rfl
  projects := by cases flag <;> rfl
  files := by cases flag <;> rfl

theorem within_expression (invocation : Invocation) (expression : String) :
    invocation.Within { invocation with expression := some expression } where
  flags flag isSet := by cases flag <;> exact isSet
  expression _ := rfl
  config := rfl
  projects := rfl
  files := rfl

theorem TwoModes.within (two : invocation.TwoModes) (within : invocation.Within other) :
    other.TwoModes := by
  have check := within.flags .check
  have func := within.flags .func
  have withDecompilation := within.flags .withDecompilation
  rcases two with ⟨left, right⟩ | ⟨left, right⟩ | ⟨left, right⟩
  · exact .inl ⟨check left, func right⟩
  · exact .inr (.inl ⟨check left, withDecompilation right⟩)
  · exact .inr (.inr ⟨func left, withDecompilation right⟩)

/-- With one mode flag set, one is left when more are: it is the only one, or two conflict. -/
theorem OneMode.within (one : invocation.OneMode) (within : invocation.Within other) :
    other.TwoModes ∨ other.OneMode := by
  by_cases two : other.TwoModes
  · exact .inl two
  · have chosen := modeChoice_of_not_twoModes two
    refine .inr ⟨other.mode, ?_, chosen⟩
    intro noMode
    rw [noMode] at chosen
    cases chosen with
    | default check func withDecompilation =>
    obtain ⟨mode, asked, choice⟩ := one
    cases choice with
    | default => exact asked rfl
    | checkOnly isSet => exact Bool.noConfusion (check.symm.trans (within.flags .check isSet))
    | funcOnly _ isSet => exact Bool.noConfusion (func.symm.trans (within.flags .func isSet))
    | fullWithDecompilation _ _ isSet =>
      exact Bool.noConfusion (withDecompilation.symm.trans (within.flags .withDecompilation isSet))

/-- Where a resolution fits, one at its place or before it still fits when more is set. -/
theorem exists_fits_of_within {resolution : Resolution} (fits : resolution.Fits invocation)
    (within : invocation.Within other) :
    ∃ earlier : Resolution, earlier.Fits other ∧ earlier.place ≤ resolution.place := by
  -- Unless two mode flags conflict now, the flags choose a mode.
  have conflict (two : other.TwoModes) (before : 4 ≤ resolution.place) :
      ∃ earlier : Resolution, earlier.Fits other ∧ earlier.place ≤ resolution.place :=
    ⟨.invalid .conflictingModes, two, before⟩
  cases resolution with
  | help => exact ⟨.help, within.flags .help fits, Nat.le_refl _⟩
  | version => exact ⟨.version, within.flags .version fits, Nat.le_refl _⟩
  | evaluate expression =>
    change invocation.expression = some expression at fits
    have given := within.expression (by rw [fits]; rfl)
    obtain ⟨changed, isExpression⟩ := Option.isSome_iff_exists.mp given
    exact ⟨.evaluate changed, isExpression, Nat.le_refl 2⟩
  | invalid fault =>
    cases fault with
    | bothConfigAndFile =>
      refine ⟨.invalid .bothConfigAndFile, ?_, Nat.le_refl _⟩
      rwa [Resolution.Fits, within.config, within.files]
    | conflictingModes => exact conflict (fits.within within) (Nat.le_refl _)
    | missingConfigOrFile =>
      obtain ⟨one, noSource⟩ := fits
      rw [← within.config, ← within.files] at noSource
      rcases one.within within with two | stillOne
      · exact conflict two (by decide)
      · exact ⟨.invalid .missingConfigOrFile, ⟨stillOne, noSource⟩, Nat.le_refl _⟩
    | multipleFiles =>
      refine ⟨.invalid .multipleFiles, ?_, Nat.le_refl _⟩
      rwa [Resolution.Fits, within.files]
  | bare =>
    obtain ⟨noConfig, noFile, noProject, -⟩ := fits
    rw [← within.config] at noConfig
    rw [← within.files] at noFile
    rw [← within.projects] at noProject
    by_cases two : other.TwoModes
    · exact conflict two (by decide)
    have chosen := modeChoice_of_not_twoModes two
    by_cases noMode : other.mode = .default
    · rw [noMode] at chosen
      exact ⟨.bare, ⟨noConfig, noFile, noProject, chosen⟩, Nat.le_refl _⟩
    · exact ⟨.invalid .missingConfigOrFile, ⟨⟨_, noMode, chosen⟩, noConfig, noFile⟩, by decide⟩
  | build mode =>
    by_cases two : other.TwoModes
    · exact conflict two (Nat.le_add_right 4 4)
    · exact ⟨.build other.mode, modeChoice_of_not_twoModes two, Nat.le_refl 8⟩

/-- More flags or an expression move the resolution to an earlier place, if they move it. -/
theorem Within.place_resolve_le (within : invocation.Within other) :
    other.resolve.place ≤ invocation.resolve.place := by
  have first := resolve_eq_iff_firstFits.mp (rfl : invocation.resolve = invocation.resolve)
  have otherFirst := resolve_eq_iff_firstFits.mp (rfl : other.resolve = other.resolve)
  obtain ⟨earlier, fits, before⟩ := exists_fits_of_within first.fits within
  have notLater := mt (otherFirst.first earlier) (not_not_intro fits)
  exact Nat.le_trans (Nat.le_of_not_lt notLater) before

/-! ## Texts -/

/-- An invocation without what its texts say, and without the wish for quiet. -/
def shape (invocation : Invocation) : Invocation :=
  { invocation with
    config := invocation.config.map fun _ => ""
    projects := invocation.projects.map fun _ => ""
    quiet := false
    expression := invocation.expression.map fun _ => ""
    files := invocation.files.map fun _ => "" }

end Invocation

/-- A resolution without the expression that it may carry. -/
def Resolution.shape : Resolution → Resolution
  | .evaluate _ => .evaluate ""
  | other => other

namespace Invocation

variable {invocation other : Invocation}

/-- The texts of names and paths are passed on and never looked at. -/
theorem resolveBuild_shape (invocation : Invocation) :
    invocation.shape.resolveBuild = invocation.resolveBuild := by
  have config : invocation.shape.config.isSome = invocation.config.isSome := Option.isSome_map
  have files : invocation.shape.files.length = invocation.files.length := List.length_map _
  have noFile : invocation.shape.files.isEmpty = invocation.files.isEmpty := List.isEmpty_map
  have noProject : invocation.shape.projects.isEmpty = invocation.projects.isEmpty :=
    List.isEmpty_map
  have source : invocation.shape.hasSource = invocation.hasSource := by
    rw [hasSource, hasSource, config, noFile]
  have count : invocation.shape.modeFlagCount = invocation.modeFlagCount := rfl
  have mode : invocation.shape.mode = invocation.mode := rfl
  rw [resolveBuild, resolveBuild, config, files, noFile, noProject, source, count, mode]

theorem shape_resolveBuild (invocation : Invocation) :
    invocation.resolveBuild.shape = invocation.resolveBuild := by
  unfold resolveBuild
  repeat' split
  all_goals rfl

/-- The row of checks reads no text. -/
theorem resolve_shape (invocation : Invocation) :
    invocation.shape.resolve = invocation.resolve.shape := by
  unfold resolve
  rw [resolveBuild_shape]
  cases help : invocation.help with
  | true => simp [shape, help, Resolution.shape]
  | false =>
    cases version : invocation.version with
    | true => simp [shape, help, version, Resolution.shape]
    | false =>
      cases expression : invocation.expression with
      | none => simp [shape, help, version, expression, shape_resolveBuild]
      | some text => simp [shape, help, version, expression, Resolution.shape]

end Invocation

/-- The resolution of an invocation goes by a fixed order: the first that fits wins. What texts say
and the wish for quiet make no difference, but for the expression that is carried along, and more
flags or an expression never move the resolution to a later place. -/
structure Prioritised (invocation : Invocation) : Prop where
  first : ∀ resolution : Resolution,
    invocation.resolve = resolution ↔ resolution.FirstFits invocation
  textless : ∀ other : Invocation, other.shape = invocation.shape →
    other.resolve.shape = invocation.resolve.shape
  flag : ∀ flag, (invocation.set flag).resolve.place ≤ invocation.resolve.place
  expression : ∀ expression,
    { invocation with expression := some expression }.resolve.place ≤ invocation.resolve.place

/-- Every invocation is resolved by the order, to the first thing that fits. What the texts say
makes no difference, and one more flag or an expression never moves the choice further down. -/
theorem Invocation.resolve_prioritised (invocation : Invocation) : Prioritised invocation where
  first _ := resolve_eq_iff_firstFits
  textless other same := by rw [← resolve_shape, ← resolve_shape, same]
  flag flag := (invocation.within_set flag).place_resolve_le
  expression expression := (invocation.within_expression expression).place_resolve_le

end CompilerFront
