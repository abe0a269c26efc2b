/-!
Contract: texts as the system hands them over, which need not be well-formed UTF-8.

Owns:
- `Raw`, a row of characters with gaps where bytes are ill-formed;
- decoding of bytes; each longest start of a character that is cut off counts as one gap;
- the two ways to use such a text: `toText?`, which refuses gaps, and `shown`, which replaces them.
-/

namespace CompilerFront.Text

/-- A text from outside; `none` stands for bytes that are no part of a character. -/
abbrev Raw : Type := List (Option Char)

namespace Raw

def ofText (text : String) : Raw := text.toList.map some

def toText? (raw : Raw) : Option String :=
  (raw.mapM id).map String.ofList

/-- The text with U+FFFD in each gap. -/
def shown (raw : Raw) : String :=
  String.ofList (raw.map fun piece => piece.getD '\ufffd')

/-! ## Decoding -/

/-- A character of which some bytes are read: their bits, how many bytes are missing, and the range
of the next one. -/
structure Partial where
  bits : Nat
  missing : Nat
  lowest : Nat
  highest : Nat
deriving DecidableEq, Repr

inductive Lead where
  | whole (character : Char)
  | starts (begun : Partial)
  | nothing
deriving DecidableEq, Repr

/-- What a byte begins, by the table of well-formed byte sequences: no overlong form, no surrogate,
nothing beyond U+10FFFF. -/
def lead (byte : Nat) : Lead :=
  if byte < 0x80 then .whole (Char.ofNat byte)
  else if byte < 0xC2 then .nothing
  else if byte < 0xE0 then .starts ⟨byte - 0xC0, 1, 0x80, 0xBF⟩
  else if byte = 0xE0 then .starts ⟨0, 2, 0xA0, 0xBF⟩
  else if byte = 0xED then .starts ⟨0xD, 2, 0x80, 0x9F⟩
  else if byte < 0xF0 then .starts ⟨byte - 0xE0, 2, 0x80, 0xBF⟩
  else if byte = 0xF0 then .starts ⟨0, 3, 0x90, 0xBF⟩
  else if byte < 0xF4 then .starts ⟨byte - 0xF0, 3, 0x80, 0xBF⟩
  else if byte = 0xF4 then .starts ⟨4, 3, 0x80, 0x8F⟩
  else .nothing

/-- The characters and gaps of bytes that follow a character begun or a whole one. -/
def decodeFrom (begun : Option Partial) (bytes : List Nat) : Raw :=
  match begun, bytes with
  | none, [] => []
  | some _, [] => [none]
  | none, byte :: rest =>
    match lead byte with
    | .whole character => some character :: decodeFrom none rest
    | .starts next => decodeFrom (some next) rest
    | .nothing => none :: decodeFrom none rest
  | some ⟨bits, missing, lowest, highest⟩, byte :: rest =>
    if lowest ≤ byte ∧ byte ≤ highest then
      if missing ≤ 1 then
        some (Char.ofNat (bits * 64 + (byte - 0x80))) :: decodeFrom none rest
      else
        decodeFrom (some ⟨bits * 64 + (byte - 0x80), missing - 1, 0x80, 0xBF⟩) rest
    else
      match lead byte with
      | .whole character => none :: some character :: decodeFrom none rest
      | .starts next => none :: decodeFrom (some next) rest
      | .nothing => none :: none :: decodeFrom none rest

def decode (bytes : List Nat) : Raw := decodeFrom none bytes

/-- A well-formed text is read back as it is. -/
@[simp] theorem toText?_ofText (text : String) : toText? (ofText text) = some text := by
  have collect : ∀ characters : List Char, (characters.map some).mapM id = some characters := by
    intro characters
    induction characters with
    | nil => rfl
    | cons first rest inductionHypothesis =>
      simp [List.mapM_cons, inductionHypothesis]
  simp [toText?, ofText, collect]

/-- A text that can be read has no gaps. -/
theorem eq_ofText_of_toText? {raw : Raw} {text : String} (read : toText? raw = some text) :
    raw = ofText text := by
  have collected : ∀ (pieces : Raw) (characters : List Char),
      pieces.mapM id = some characters → pieces = characters.map some := by
    intro pieces
    induction pieces with
    | nil =>
      rintro characters ⟨⟩
      rfl
    | cons first rest inductionHypothesis =>
      intro characters collects
      rw [List.mapM_cons] at collects
      simp only [Option.bind_eq_bind, Option.bind_eq_some_iff, id] at collects
      obtain ⟨character, rfl, characters, restCollects, ⟨⟩⟩ := collects
      rw [List.map_cons, inductionHypothesis characters restCollects]
  obtain ⟨characters, collects, rfl⟩ := Option.map_eq_some_iff.mp read
  rw [ofText, String.toList_ofList]
  exact collected raw characters collects

/-- Raw text is the text of at most one string, and of none if a unit of it is ill formed. -/
theorem toText?_eq_some_iff {raw : Raw} {text : String} :
    toText? raw = some text ↔ raw = ofText text := by
  constructor
  · exact eq_ofText_of_toText?
  · rintro rfl
    exact toText?_ofText text

end Raw

end CompilerFront.Text
