import CompilerFront.Proofs.Interchange.Grammar
import CompilerFront.Proofs.Printing.Escapes
import Mathlib.Data.List.Forall2

/-!
Contract: what is written in the interchange form is in its grammar, and in one line.

Owns:
- `spells_string`, `spells_array` and `spells_object`, one for each way of writing a value;
- `Inline`, which holds of texts without characters below U+0020, and that it holds of all that is
  written.
-/

namespace CompilerFront.Text.Json

/-! ## In the grammar -/

/-- The escape of a character is a way to write it. -/
theorem spellsCharacter_escape (character : Char) :
    SpellsCharacter character (escape character) := by
  unfold escape
  split
  case h_8 noQuote noBackslash _ _ _ _ _ =>
    split
    · rename_i control
      have fits : character.toNat < 16 ^ 4 := Nat.lt_trans control (by decide)
      apply SpellsCharacter.unit
      constructor
      · exact Expr.length_hexDigitsPadded (by decide) fits
      · exact List.all_eq_true.mpr (Expr.isDigitOf_of_mem_hexDigitsPadded 4 character.toNat)
      · exact Expr.positional_hexDigitsPadded 4 character.toNat
    · rename_i noControl
      exact .plain noQuote noBackslash (Nat.le_of_not_lt noControl)
  all_goals exact .short rfl

theorem spellsString_flatMap (characters : List Char) :
    SpellsString characters (characters.flatMap escape) := by
  induction characters with
  | nil => exact .nil
  | cons first others inductionHypothesis =>
    rw [List.flatMap_cons]
    exact .cons (spellsCharacter_escape first) inductionHypothesis

theorem spells_string (content : String) : Spells (.string content) (string content.toList) :=
  .string (spellsString_flatMap content.toList)

/-- A value and its text make an element without blanks. -/
def Element.tight (value : Value) (text : List Char) : Element := ⟨[], value, text, []⟩

theorem Element.spaced_tight (value : Value) (text : List Char) : (tight value text).Spaced :=
  ⟨List.forall_mem_nil _, List.forall_mem_nil _⟩

theorem Element.spelling_tight (value : Value) (text : List Char) :
    (tight value text).spelling = text :=
  List.append_nil text

/-- Text written without blanks is a case of the grammar, with nothing around every element. -/
theorem exists_elements {values : List Value} {texts : List (List Char)}
    (spelled : List.Forall₂ Spells values texts) :
    ∃ elements : List Element,
      elements.map Element.value = values ∧ elements.map Element.spelling = texts ∧
        (∀ element ∈ elements, element.Spaced) ∧
        ∀ element ∈ elements, Spells element.value element.text := by
  induction spelled with
  | nil => exact ⟨[], rfl, rfl, List.forall_mem_nil _, List.forall_mem_nil _⟩
  | cons first others inductionHypothesis =>
    rename_i value text values texts
    obtain ⟨elements, rfl, rfl, spaced, spelled⟩ := inductionHypothesis
    refine ⟨.tight value text :: elements, rfl, ?_, ?_, ?_⟩
    · rw [List.map_cons, Element.spelling_tight]
    · exact List.forall_mem_cons.mpr ⟨Element.spaced_tight value text, spaced⟩
    · exact List.forall_mem_cons.mpr ⟨first, spelled⟩

/-- Texts of values, in brackets, are a text of the row of the values. -/
theorem spells_array {values : List Value} {texts : List (List Char)}
    (spelled : List.Forall₂ Spells values texts) : Spells (.array values) (array texts) := by
  obtain ⟨elements, rfl, rfl, spaced, spelled⟩ := exists_elements spelled
  by_cases none : elements = []
  · rw [none]
    exact .emptyArray (List.forall_mem_nil _)
  · exact .array none spaced spelled

def SpellsField (named : String × Value) (text : List Char) : Prop :=
  ∃ valueText, text = field named.1 valueText ∧ Spells named.2 valueText

def Member.tight (name : String) (value : Value) (text : List Char) : Member :=
  ⟨[], name, name.toList.flatMap escape, [], .tight value text⟩

theorem Member.spaced_tight (name : String) (value : Value) (text : List Char) :
    (tight name value text).Spaced :=
  ⟨List.forall_mem_nil _, spellsString_flatMap name.toList, List.forall_mem_nil _,
    Element.spaced_tight value text⟩

theorem Member.spelling_tight (name : String) (value : Value) (text : List Char) :
    (tight name value text).spelling = Json.field name text := by
  simp [tight, spelling, quoted, Element.spelling_tight, Json.field, string]

theorem exists_members {fields : List (String × Value)} {texts : List (List Char)}
    (spelled : List.Forall₂ SpellsField fields texts) :
    ∃ members : List Member,
      members.map Member.field = fields ∧ members.map Member.spelling = texts ∧
        (∀ member ∈ members, member.Spaced) ∧
        ∀ member ∈ members, Spells member.element.value member.element.text := by
  induction spelled with
  | nil => exact ⟨[], rfl, rfl, List.forall_mem_nil _, List.forall_mem_nil _⟩
  | cons first others inductionHypothesis =>
    rename_i named text fields texts
    obtain ⟨members, rfl, rfl, spaced, spelled⟩ := inductionHypothesis
    obtain ⟨valueText, rfl, valueSpelled⟩ := first
    refine ⟨.tight named.1 named.2 valueText :: members, rfl, ?_, ?_, ?_⟩
    · rw [List.map_cons, Member.spelling_tight]
    · exact List.forall_mem_cons.mpr ⟨Member.spaced_tight _ _ _, spaced⟩
    · exact List.forall_mem_cons.mpr ⟨valueSpelled, spelled⟩

/-- Texts of fields, in braces, are a text of the record of the fields. -/
theorem spells_object {fields : List (String × Value)} {texts : List (List Char)}
    (spelled : List.Forall₂ SpellsField fields texts) : Spells (.object fields) (object texts) := by
  obtain ⟨members, rfl, rfl, spaced, spelled⟩ := exists_members spelled
  by_cases none : members = []
  · rw [none]
    exact .emptyObject (List.forall_mem_nil _)
  · exact .object none spaced spelled

/-! ## In one line -/

/-- No character of the text is below U+0020. -/
def Inline (text : List Char) : Prop := ∀ character ∈ text, 0x20 ≤ character.toNat

theorem inline_append {text behind : List Char} (first : Inline text) (second : Inline behind) :
    Inline (text ++ behind) :=
  List.forall_mem_append.mpr ⟨first, second⟩

theorem inline_cons {character : Char} {text : List Char} (first : 0x20 ≤ character.toNat)
    (others : Inline text) : Inline (character :: text) :=
  List.forall_mem_cons.mpr ⟨first, others⟩

/-- A character is written in one line, whatever it is. -/
theorem inline_escape (character : Char) : Inline (escape character) := by
  unfold escape
  split
  case h_8 =>
    split
    · apply inline_cons (by decide)
      apply inline_cons (by decide)
      intro digit member
      have isDigit := Expr.isDigitOf_of_mem_hexDigitsPadded 4 character.toNat digit member
      have shown := Expr.not_isControl_of_isDigitOf isDigit
      simp only [Text.isControl, Bool.or_eq_false_iff, decide_eq_false_iff_not] at shown
      omega
    · rename_i noControl
      exact List.forall_mem_singleton.mpr (Nat.le_of_not_lt noControl)
  all_goals
    exact inline_cons (by decide) (List.forall_mem_singleton.mpr (by decide))

/-- A character below the blank is always escaped, the line break among them: a string stays on its
line. -/
theorem inline_string (characters : List Char) : Inline (string characters) := by
  apply inline_cons (by decide)
  apply inline_append
  · intro shown member
    obtain ⟨character, -, written⟩ := List.mem_flatMap.mp member
    exact inline_escape character shown written
  · exact List.forall_mem_singleton.mpr (by decide)

theorem inline_field {name : String} {text : List Char} (inline : Inline text) :
    Inline (field name text) :=
  inline_append (inline_string name.toList) (inline_cons (by decide) inline)

theorem inline_separated {texts : List (List Char)} (inline : ∀ text ∈ texts, Inline text) :
    Inline (separated texts) := by
  induction texts with
  | nil => exact List.forall_mem_nil _
  | cons first others inductionHypothesis =>
    obtain ⟨firstInline, othersInline⟩ := List.forall_mem_cons.mp inline
    cases others with
    | nil => exact firstInline
    | cons second others =>
      exact inline_append firstInline (inline_cons (by decide) (inductionHypothesis othersInline))

theorem inline_array {texts : List (List Char)} (inline : ∀ text ∈ texts, Inline text) :
    Inline (array texts) := by
  apply inline_cons (by decide)
  exact inline_append (inline_separated inline) (List.forall_mem_singleton.mpr (by decide))

theorem inline_object {texts : List (List Char)} (inline : ∀ text ∈ texts, Inline text) :
    Inline (object texts) := by
  apply inline_cons (by decide)
  exact inline_append (inline_separated inline) (List.forall_mem_singleton.mpr (by decide))

end CompilerFront.Text.Json
