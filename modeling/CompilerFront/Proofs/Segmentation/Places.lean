import CompilerFront.Proofs.Segmentation.MaximalMunch

/-!
Contract: how lexing goes on from a place where a token starts.

Owns:
- `Leads`, by which lexing comes to a text behind other characters: these are whole tokens and gaps;
- `goesOn`, what becomes of a text once its next token is read, or is found to be none;
- `Leads.lex_eq`, by which a text is lexed up to such a place and then goes on with the token there.

Does not own: what stands at the place.
-/

namespace CompilerFront.Expr

open Segment (characters tokens)

/-- Lexing comes to a text behind these characters: they are whole tokens with their gaps. -/
def Leads (before text : List Char) : Prop :=
  ∃ segments last, before = characters segments last ∧ Segmentation text segments last

/-- Lexing at a column, behind the tokens of a row, goes on behind the token that is read there or
ends with the fault that is found. -/
def goesOn (row : List Token) (column : Nat) :
    Except LexicalFault (Scanned TokenKind) → Except (Located LexicalFault) TokenStream
  | .ok scanned =>
    lexFrom (⟨scanned.value, column⟩ :: row.reverse) (column + scanned.width) scanned.rest
  | .error cause => .error ⟨column, cause⟩

variable {before rest : List Char} {first : Char}

theorem leads_nil (text : List Char) : Leads [] text := ⟨[], [], rfl, .last .nil⟩

/-- What stands before the place is lexed by itself, and what is found at the place decides how
lexing goes on. -/
theorem Leads.lex_eq (leads : Leads before (first :: rest)) (visible : Visible (first :: rest)) :
    ∃ row, lex before = .ok (.ofInit row ⟨.endOfText, before.length + 1⟩) ∧
      lex (before ++ first :: rest) = goesOn row (before.length + 1) (readToken first rest) := by
  obtain ⟨segments, last, rfl, segmentation⟩ := leads
  refine ⟨tokens 1 segments, lex_segments segmentation.cut, ?_⟩
  have lexed : lexFrom [] 1 (characters segments (last ++ first :: rest)) = _ :=
    lexFrom_segments segmentation
  rw [Segment.characters_append_text] at lexed
  rw [lex, lexed, lexFrom_visible visible, Nat.add_comm 1, List.append_nil]
  cases readToken first rest with
  | ok scanned => rfl
  | error cause => rfl

end CompilerFront.Expr
