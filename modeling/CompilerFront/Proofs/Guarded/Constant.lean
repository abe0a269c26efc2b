import CompilerFront.Expr.Constant
import CompilerFront.Proofs.Guarded.Evaluator
import CompilerFront.Proofs.Guarded.Reading
import CompilerFront.Proofs.Guarded.Scanning

/-!
Contract: evaluating the text of an expression never misuses an operation.

Owns:
- `run`, the lexer, the parser and the evaluator with all their guards;
- `run_eq_evaluate`, that it ends on every text, unbreached, with the outcome of `evaluate`.

Each guard is one way in which a run could stop short. The index of the lexer stays within the
characters, and so do the slices it takes; the parser is given a token and looks at none that is not
there; it leaves no level that it has not entered, recurses no deeper than there are levels, and its
counters fit their words; the evaluator asks `intBinary` for operators on integers only; shifts are
by less than the width, divisions have quotients, and corrections stay in range.
-/

namespace CompilerFront.Expr.Guarded

/-- The value of a constant expression, from a lexer at the first character and a parser at the
first token and on no level. -/
def run (source : String) : ExceptT Breach Option (Except (Located Fault) Value) := do
  match ← (Lexer.lexAll source.toList []).run' 0 with
  | .error fault => return .error (fault.map .lexical)
  | .ok tokens =>
    match ← (Parser.parse tokens).run' ⟨0, 0⟩ with
    | .error fault => return .error (fault.map .syntactic)
    | .ok tree =>
      match ← ExceptT.mk (some (evaluate tree)) with
      | .error fault => return .error (fault.map .computational)
      | .ok value => return .ok value

theorem run'_of_runs {State Result : Type} {program : Machine State Result} {before after : State}
    {result : Result} (runs : Runs program before result after) :
    program.run' before = pure result := by
  show Prod.fst <$> program.run before = pure result
  rw [runs, map_pure]

/-- On every text the run ends, no guard is breached, and the outcome is that of `evaluate`. The
three parts of the program are followed by their own rules, and only their ends meet here. -/
theorem run_eq_evaluate (source : String) :
    (run source).run = some (.ok (Expr.evaluate source)) := by
  have lexed := Lexer.runs_lexAll (Lexer.at_start source.toList) []
  unfold run Expr.evaluate lex
  cases lexical : lexFrom [] 1 source.toList with
  | error fault =>
    rw [lexical] at lexed
    obtain ⟨after, lexes⟩ := lexed
    rw [run'_of_runs lexes, pure_bind]
    rfl
  | ok stream =>
    rw [lexical] at lexed
    obtain ⟨after, lexes⟩ := lexed
    obtain ⟨parserAfter, parses⟩ := Parser.runs_parse stream
    simp only [run'_of_runs lexes, run'_of_runs parses, pure_bind]
    cases Tree.ofTokens stream with
    | error fault => rfl
    | ok tree =>
      simp only [evaluate_eq]
      cases tree.evaluate <;> rfl

end CompilerFront.Expr.Guarded
