import CompilerFront.Proofs.Calls.Descent
import CompilerFront.Proofs.Calls.Returns
import CompilerFront.Proofs.Columns.Faults
import CompilerFront.Proofs.Grammar.Acceptance

/-!
Contract: reading comes to an end over every row of tokens, whether or not the text ends in it.

Owns:
- `wholeOutcome`, by which an answer is one for a whole row;
- `reading_terminates`: every call answers after finitely many steps, every call and every turn of a
  loop weighs less than the function that makes it, the machine agrees with the reader, and a row
  without the end of the text is refused.

A row without the end of the text can end in a symbol that is taken again and again, an opening
parenthesis, a sign or a postfix operator. The limits on depth and height end this as well.
-/

namespace CompilerFront.Expr.Calls

open CompilerFront.Expr.Parser (Task)
open Guarded (ParserState)
open Guarded.Parser (Stands)
open StateTransition (Reaches eval)

/-- The tree of a row whose expression has been read up to a position: the text has to end there. -/
def wholeOutcome (row : TokenStream) (position : Nat) :
    Answer → Except (Located SyntaxFault) Tree
  | .ok read =>
    if (row.tokenAt position).kind = .endOfText then .ok read.tree
    else .error ⟨(row.tokenAt position).column, .expectedEnd⟩
  | .error fault => .error fault

/-- What it means that reading a row comes to an end: each function does, from any position on the
row; calls and turns of loops go down in weight, from functions that are called within the limit on
depth; the first call answers on the level it began on, with the outcome of the reader; and where
the text does not end, this is a fault. -/
structure Terminates (row : TokenStream) : Prop where
  calls_end : ∀ (task : Task) (start : ParserState), start.position ≤ row.later.length →
    (eval (step row) (calling task start)).Dom
  descends : ∀ (task : Task) (start : ParserState), start.depth ≤ nestingLimit →
    ∀ reached, Reaches (step row) (calling task start) reached →
      ∀ turn, reached.turn? row = some turn →
        ∀ next, (turn.made row).control = .call next →
          weight row next (turn.made row).state < weight row turn.task turn.caller
  answers : ∃ answer position taken,
    eval (step row) (calling .conditional ⟨0, 0⟩) =
        Part.some ⟨.answer answer, ⟨position, 0⟩, taken, []⟩ ∧
      wholeOutcome row position answer = Tree.ofTokens row
  refuses : (∀ token ∈ row.toList, token.kind ≠ .endOfText) →
    ∃ fault, Tree.ofTokens row = .error fault

section Rows

variable {row : TokenStream}

theorem exists_stands {position : Nat} (inside : position ≤ row.later.length) :
    ∃ stream, Stands row.toList position stream := by
  cases shape : row.toList.drop position with
  | nil =>
    have length : row.later.length + 1 ≤ position := List.drop_eq_nil_iff.mp shape
    omega
  | cons current later => exact ⟨⟨current, later⟩, shape⟩

/-- The machine of calls ends because it follows the reader, which is total. -/
theorem eval_dom_of_inside (task : Task) {start : ParserState}
    (inside : start.position ≤ row.later.length) : (eval (step row) (calling task start)).Dom := by
  obtain ⟨stream, stands⟩ := exists_stands inside
  obtain ⟨position, taken, ends, -⟩ := exists_eval task start stands
  rw [ends]
  trivial

/-- Every call on the way weighs less than the function that makes it. -/
theorem descends_of_reaches {task next : Task} {start : ParserState} {reached : Configuration}
    {turn : Turn} (inside : start.depth ≤ nestingLimit)
    (reaches : Reaches (step row) (calling task start) reached)
    (has : reached.turn? row = some turn) (called : (turn.made row).control = .call next) :
    weight row next (turn.made row).state < weight row turn.task turn.caller := by
  have invariant := invariant_of_reaches (invariant_calling task inside) reaches
  have hasTurn := hasTurn_of_turn? has
  exact (invariant.fits hasTurn).lower (invariant.descends hasTurn) called

/-- The machine reads a row as the reader does. -/
theorem exists_eval_conditional (row : TokenStream) :
    ∃ answer position taken,
      eval (step row) (calling .conditional ⟨0, 0⟩) =
          Part.some ⟨.answer answer, ⟨position, 0⟩, taken, []⟩ ∧
        wholeOutcome row position answer = Tree.ofTokens row := by
  have stands : Stands row.toList 0 row := rfl
  obtain ⟨position, taken, ends, standsRest⟩ :=
    exists_eval .conditional ⟨0, 0⟩ stands
  refine ⟨_, position, taken, ends, ?_⟩
  rw [Grammar.ofTokens_eq]
  cases outcome : Task.conditional.read 0 row with
  | error => rfl
  | ok found =>
    obtain ⟨read, rest⟩ := found
    show wholeOutcome row position (.ok read) = _
    rw [wholeOutcome, tokenAt_of_stands (standsRest read rest outcome)]
    rfl

/-- What is left behind an expression is part of the row, and so is its first token. -/
theorem refused_of_noEnd (noEnd : ∀ token ∈ row.toList, token.kind ≠ .endOfText) :
    ∃ fault, Tree.ofTokens row = .error fault := by
  rw [Grammar.ofTokens_eq]
  cases outcome : Task.conditional.read 0 row with
  | error fault => exact ⟨fault, rfl⟩
  | ok found =>
    obtain ⟨read, rest⟩ := found
    have stays := Parser.staysIn_of_reads (Parser.reads_read 0 .conditional row)
    rw [outcome] at stays
    have member : rest.current ∈ row.toList := stays.subset List.mem_cons_self
    exact ⟨_, if_neg (noEnd rest.current member)⟩

end Rows

/-- Reading comes to an end over every row of tokens. Every call and every turn of a loop weighs
less than the function it is made by, even behind the end of the text, where the position stands
still. -/
theorem reading_terminates (row : TokenStream) : Terminates row where
  calls_end task _ inside := eval_dom_of_inside task inside
  descends _ _ inside _ reaches _ has _ called := descends_of_reaches inside reaches has called
  answers := exists_eval_conditional row
  refuses := refused_of_noEnd

end CompilerFront.Expr.Calls
