import CompilerFront.Expr.Evaluation
import CompilerFront.Expr.Lexer
import CompilerFront.Expr.Parser

/-!
Contract: from the text of a constant expression to its value.

Owns:
- `evaluate`, which reports a lexical fault before any other and a syntactic one before evaluating.
-/

namespace CompilerFront.Expr

def Located.map {Before After : Type} (change : Before → After) (fault : Located Before) :
    Located After :=
  ⟨fault.column, change fault.cause⟩

/-- The value of a constant expression, or the fault that it is refused for. -/
def evaluate (source : String) : Except (Located Fault) Value :=
  match lex source.toList with
  | .error fault => .error (fault.map .lexical)
  | .ok tokens =>
    match Tree.ofTokens tokens with
    | .error fault => .error (fault.map .syntactic)
    | .ok tree =>
      match tree.evaluate with
      | .error fault => .error (fault.map .computational)
      | .ok value => .ok value

end CompilerFront.Expr
