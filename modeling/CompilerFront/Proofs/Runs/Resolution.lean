import CompilerFront.Front.Journal

/-!
Contract: which invocations ask a backend for something.

Owns:
- `Invocation.Buildable`, what has to hold of an invocation that is a build;
- when an invocation resolves to an evaluation or to a build, read off the row of checks in
  `Invocation.resolve`;
- `Invocation.question?`, the one question that an invocation can have for a backend.

Does not own: what a run makes of a resolution.
-/

namespace CompilerFront

namespace Resolution

def isEvaluation : Resolution → Bool
  | .evaluate _ => true
  | _ => false

def isBuild : Resolution → Bool
  | .build _ => true
  | _ => false

end Resolution

namespace Invocation

variable {invocation : Invocation}

/-- All that is checked before an invocation is taken for a build. Where one of these fails, the
invocation resolves to something else. -/
structure Buildable (invocation : Invocation) : Prop where
  noHelp : invocation.help = false
  noVersion : invocation.version = false
  noEvaluation : invocation.expression = none
  exclusive : ¬(invocation.config.isSome ∧ invocation.files ≠ [])
  oneMode : invocation.modeFlagCount ≤ 1
  sourced : invocation.modeFlagCount = 0 ∨ invocation.hasSource = true
  oneFile : invocation.files.length ≤ 1
  named : invocation.hasSource = true ∨ invocation.projects ≠ []

theorem resolve_eq_evaluate_iff {expression : String} :
    invocation.resolve = .evaluate expression ↔
      invocation.help = false ∧ invocation.version = false ∧
        invocation.expression = some expression := by
  unfold resolve resolveBuild
  grind

/-- The row of checks ends with a build when none of them finds anything. -/
theorem resolveBuild_eq_build_iff {mode : Mode} :
    invocation.resolveBuild = .build mode ↔
      ¬(invocation.config.isSome ∧ invocation.files ≠ []) ∧ invocation.modeFlagCount ≤ 1 ∧
        (invocation.modeFlagCount = 0 ∨ invocation.hasSource = true) ∧
        invocation.files.length ≤ 1 ∧ (invocation.hasSource = true ∨ invocation.projects ≠ []) ∧
        invocation.mode = mode := by
  unfold resolveBuild
  grind

/-- A build is started from exactly the buildable invocations, in the mode that their flags
choose. -/
theorem resolve_eq_build_iff {mode : Mode} :
    invocation.resolve = .build mode ↔ invocation.Buildable ∧ invocation.mode = mode := by
  have plain : invocation.resolve = .build mode ↔
      invocation.help = false ∧ invocation.version = false ∧ invocation.expression = none ∧
        invocation.resolveBuild = .build mode := by
    unfold resolve
    grind
  rw [plain, resolveBuild_eq_build_iff]
  constructor
  · rintro ⟨noHelp, noVersion, noEvaluation, exclusive, oneMode, sourced, oneFile, named, same⟩
    exact ⟨⟨noHelp, noVersion, noEvaluation, exclusive, oneMode, sourced, oneFile, named⟩, same⟩
  · rintro ⟨⟨noHelp, noVersion, noEvaluation, exclusive, oneMode, sourced, oneFile, named⟩, same⟩
    exact ⟨noHelp, noVersion, noEvaluation, exclusive, oneMode, sourced, oneFile, named, same⟩

/-! ## Questions -/

/-- The question that an invocation has for a backend. -/
def question? (invocation : Invocation) : Option Question :=
  match invocation.resolve with
  | .evaluate expression => some (.evaluate expression)
  | .build mode => some (.build (invocation.request mode))
  | _ => none

theorem question?_eq_evaluate_iff {expression : String} :
    invocation.question? = some (.evaluate expression) ↔
      invocation.resolve = .evaluate expression := by
  unfold question?
  cases invocation.resolve <;> simp

theorem question?_eq_build_iff {request : Request} :
    invocation.question? = some (.build request) ↔
      ∃ mode, invocation.resolve = .build mode ∧ invocation.request mode = request := by
  unfold question?
  cases invocation.resolve <;> simp

end Invocation

end CompilerFront
