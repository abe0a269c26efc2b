/-!
Contract: text without the sequences that control a terminal.

Owns:
- `withoutSequences`, which removes sequences that an escape character starts, and all ASCII
  controls but tab, line feed, form feed and carriage return.

A line feed inside a sequence ends it and stays, and so do the other three, save in the sequences
that carry text: a command to the system, which ends with a bell, and a text for a device, which
ends with the byte 0x9C. Any sequence ends where another escape starts one. Characters that are not
ASCII belong to the sequence they stand in.
-/

namespace CompilerFront.Text

/-- Where a reader stands among the sequences of a text. -/
inductive SequenceState where
  | outside
  | escape
  | escapeMore
  | parameters
  | systemCommand
  | deviceStart
  | deviceParameters
  | deviceMore
  | deviceText
deriving DecidableEq, Repr

/-- The controls that stay in a text. -/
def isLayoutControl (character : Char) : Bool :=
  character == '\t' || character == '\n' || character == '\x0c' || character == '\r'

namespace SequenceState

/-- The state behind a printable ASCII character inside a sequence. -/
def behind (state : SequenceState) (character : Char) : SequenceState :=
  match state with
  | .outside => .outside
  | .escape =>
    if character == '[' then .parameters
    else if character == ']' then .systemCommand
    else if character == 'P' then .deviceStart
    else if character ∈ ['X', '^', '_'] then .deviceText
    else if character.toNat < 0x30 then .escapeMore
    else .outside
  | .escapeMore => if character.toNat < 0x30 then .escapeMore else .outside
  | .parameters => if character.toNat < 0x40 then .parameters else .outside
  | .systemCommand => .systemCommand
  | .deviceStart =>
    if character.toNat < 0x30 then .deviceMore
    else if character.toNat < 0x40 then .deviceParameters
    else .deviceText
  | .deviceParameters =>
    if character.toNat < 0x30 then .deviceMore
    else if character.toNat < 0x3C then .deviceParameters
    else .deviceText
  | .deviceMore => if character.toNat < 0x30 then .deviceMore else .deviceText
  | .deviceText => .deviceText

/-- The byte that ends a text for a device. -/
def terminator : UInt8 := 0x9C

/-- The state behind a character that is not ASCII, inside a sequence. The terminator counts also
as one of the bytes of such a character. -/
def behindWide (state : SequenceState) (character : Char) : SequenceState :=
  if state == .deviceText && (String.utf8EncodeChar character).contains terminator then .outside
  else state

/-- A state in which everything belongs to the sequence up to its end. -/
def isOpaque : SequenceState → Bool
  | .systemCommand | .deviceStart | .deviceParameters | .deviceMore | .deviceText => true
  | .outside | .escape | .escapeMore | .parameters => false

def step (state : SequenceState) (character : Char) : SequenceState × Bool :=
  if character == '\x1b' then (.escape, false)
  else if character == '\x18' || character == '\x1a' then (.outside, false)
  else if state == .systemCommand && character == '\x07' then (.outside, false)
  else if state == .outside then
    (.outside,
      isLayoutControl character || (0x20 ≤ character.toNat && character.toNat != 0x7F))
  else if 0x80 ≤ character.toNat then (state.behindWide character, false)
  else if character.toNat < 0x20 || character.toNat == 0x7F then
    if state.isOpaque || !isLayoutControl character then (state, false) else (.outside, true)
  else (state.behind character, false)

def remaining (state : SequenceState) : List Char → List Char
  | [] => []
  | first :: rest =>
    let (next, stays) := state.step first
    if stays then first :: next.remaining rest else next.remaining rest

end SequenceState

def withoutSequences (text : String) : String :=
  String.ofList (SequenceState.outside.remaining text.toList)

end CompilerFront.Text
