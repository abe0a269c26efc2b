import CompilerFront.Proofs.Interchange.Grammar
import CompilerFront.Proofs.Printing.Escapes

/-!
Contract: a reader of the interchange form that takes every text of its grammar.

Owns:
- `read`, which gives the value of a text;
- `Takes`, by which a reader takes a text off the head of a longer one;
- `read_of_spells`, that a text of a value is read as that value.
-/

namespace CompilerFront.Text.Json

/-- A value off the head of a text, with what stands behind it. -/
abbrev Reader (Content : Type) : Type := List Char → Option (Content × List Char)

/-! ## Strings -/

def readUnit : Reader Nat := fun text =>
  if (text.take 4).length = 4 ∧ (text.take 4).all (Expr.isDigitOf 16) = true then
    some (Expr.positional 16 (text.take 4), text.drop 4)
  else none

/-- Reads what stands behind a unit: alone it is a character, or it is the first of a pair. -/
def readBehindUnit (unit : Nat) (text : List Char) : Option (Char × List Char) :=
  if isHigh unit then
    match text with
    | '\\' :: 'u' :: rest =>
      (readUnit rest).bind fun (low, rest) =>
        if isLow low then (Expr.charOfPoint? (joined unit low)).map (·, rest) else none
    | _ => none
  else (Expr.charOfPoint? unit).map (·, text)

def readCharacter : Reader Char
  | '\\' :: 'u' :: rest => (readUnit rest).bind fun (unit, rest) => readBehindUnit unit rest
  | '\\' :: letter :: rest => (shortEscape? letter).map (·, rest)
  | character :: rest =>
    if character ≠ '"' ∧ character ≠ '\\' ∧ 0x20 ≤ character.toNat then some (character, rest)
    else none
  | [] => none

/-- Reads characters up to a closing quote, in a number of steps. -/
def readCharacters : Nat → Reader (List Char)
  | 0, _ => none
  | _ + 1, '"' :: rest => some ([], rest)
  | steps + 1, text =>
    (readCharacter text).bind fun (first, rest) =>
      (readCharacters steps rest).map fun (others, rest) => (first :: others, rest)

def readString : Reader String := fun text =>
  (readCharacters text.length text).map fun (characters, rest) =>
    (String.ofList characters, rest)

/-! ## Values -/

/-- Reads a number: the whole run of characters that a number can have. -/
def readNumber : Reader Value := fun text =>
  let run := text.takeWhile isNumeric
  if isNumber run then some (.number run, text.dropWhile isNumeric) else none

def readSpaced {Content : Type} (reader : Reader Content) : Reader Content := fun text =>
  (reader (text.dropWhile isBlank)).map fun (content, rest) => (content, rest.dropWhile isBlank)

/-- Reads things with commas between them, up to a closing character, in a number of steps. -/
def readRow {Content : Type} (reader : Reader Content) (close : Char) :
    Nat → Reader (List Content)
  | 0, _ => none
  | steps + 1, text =>
    (reader text).bind fun
      | (first, ',' :: rest) =>
        (readRow reader close steps rest).map fun (others, rest) => (first :: others, rest)
      | (first, next :: rest) => if next = close then some ([first], rest) else none
      | (_, []) => none

/-- Reads a row that may be empty. -/
def readRowOrNone {Content : Type} (reader : Reader Content) (close : Char) :
    Reader (List Content) := fun text =>
  match text.dropWhile isBlank with
  | [] => none
  | next :: rest =>
    if next = close then some ([], rest) else readRow reader close text.length text

def readField (reader : Reader Value) : Reader (String × Value)
  | '"' :: text =>
    (readString text).bind fun (name, rest) =>
      match rest.dropWhile isBlank with
      | ':' :: rest => (readSpaced reader rest).map fun (value, rest) => ((name, value), rest)
      | _ => none
  | _ => none

/-- Reads a value that goes no deeper than a number of steps. -/
def readValue : Nat → Reader Value
  | 0, _ => none
  | steps + 1, text =>
    match text with
    | 'n' :: 'u' :: 'l' :: 'l' :: rest => some (.null, rest)
    | 'f' :: 'a' :: 'l' :: 's' :: 'e' :: rest => some (.flag false, rest)
    | 't' :: 'r' :: 'u' :: 'e' :: rest => some (.flag true, rest)
    | '"' :: rest => (readString rest).map fun (content, rest) => (.string content, rest)
    | '[' :: rest =>
      (readRowOrNone (readSpaced (readValue steps)) ']' rest).map fun (elements, rest) =>
        (.array elements, rest)
    | '\x7b' :: rest =>
      (readRowOrNone (readSpaced (readField (readValue steps))) '\x7d' rest).map
        fun (members, rest) => (.object members, rest)
    | text => readNumber text

/-- Reads a text that is one value with blanks around it. -/
def read (text : List Char) : Option Value :=
  match readSpaced (readValue text.length) text with
  | some (value, []) => some value
  | _ => none

/-! ## What strings are read as -/

theorem readUnit_append {digits : List Char} {number : Nat} (denotes : CodeUnit digits number)
    (rest : List Char) : readUnit (digits ++ rest) = some (number, rest) := by
  have taken : (digits ++ rest).take 4 = digits := List.take_left' denotes.four
  have left : (digits ++ rest).drop 4 = rest := List.drop_left' denotes.four
  rw [readUnit, taken, left, denotes.denotes]
  exact if_pos ⟨denotes.four, denotes.hexadecimal⟩

/-- No character is half of a pair. -/
theorem isHigh_toNat (character : Char) : isHigh character.toNat = false := by
  have valid : character.toNat < 0xD800 ∨
      0xDFFF < character.toNat ∧ character.toNat < 0x110000 := character.valid
  simp only [isHigh, Bool.and_eq_false_iff, decide_eq_false_iff_not]
  omega

/-- A written character is read as that character, whatever follows it. -/
theorem readCharacter_append {character : Char} {text : List Char}
    (spelled : SpellsCharacter character text) (rest : List Char) :
    readCharacter (text ++ rest) = some (character, rest) := by
  cases spelled with
  | plain noQuote noBackslash noControl =>
    rw [List.cons_append, List.nil_append, readCharacter]
    · exact if_pos ⟨noQuote, noBackslash, noControl⟩
    · intro _ same
      exact absurd same noBackslash
    · intro _ _ same
      exact absurd same noBackslash
  | short known =>
    rename_i letter
    have noUnit : letter ≠ 'u' := by
      rintro rfl
      cases known
    rw [List.cons_append, List.cons_append, List.nil_append, readCharacter]
    · rw [known]
      rfl
    · exact noUnit
  | unit denotes =>
    rw [List.cons_append, List.cons_append, readCharacter, readUnit_append denotes]
    show readBehindUnit character.toNat rest = some (character, rest)
    simp only [readBehindUnit, isHigh_toNat, Expr.charOfPoint?_toNat, Bool.false_eq_true, if_false,
      Option.map_some]
  | pair first second isHigh isLow denotes =>
    rename_i digits lowDigits high low
    rw [List.cons_append, List.cons_append, readCharacter, List.append_assoc,
      readUnit_append first]
    show readBehindUnit high ('\\' :: 'u' :: (lowDigits ++ rest)) = some (character, rest)
    simp only [readBehindUnit, isHigh, readUnit_append second, Option.bind_some, isLow, denotes,
      Expr.charOfPoint?_toNat, if_true, Option.map_some]

theorem SpellsCharacter.head {character : Char} {text : List Char}
    (spelled : SpellsCharacter character text) :
    ∃ first others, text = first :: others ∧ first ≠ '"' := by
  cases spelled with
  | plain noQuote _ _ => exact ⟨_, _, rfl, noQuote⟩
  | short _ => exact ⟨_, _, rfl, by decide⟩
  | unit _ => exact ⟨_, _, rfl, by decide⟩
  | pair _ _ _ _ _ => exact ⟨_, _, rfl, by decide⟩

/-- By induction on how the string is spelled. The steps bound the recursion, and the length of the
text is enough of them. -/
theorem readCharacters_append {characters text : List Char}
    (spelled : SpellsString characters text) (rest : List Char) :
    ∀ steps, text.length < steps →
      readCharacters steps (text ++ '"' :: rest) = some (characters, rest) := by
  induction spelled with
  | nil =>
    intro steps enough
    obtain ⟨steps, rfl⟩ := Nat.exists_eq_add_one_of_ne_zero (Nat.ne_of_gt enough)
    rfl
  | cons head tail inductionHypothesis =>
    rename_i first others firstText otherText
    intro steps enough
    obtain ⟨steps, rfl⟩ := Nat.exists_eq_add_one_of_ne_zero (Nat.ne_zero_of_lt enough)
    have read := readCharacter_append head (otherText ++ '"' :: rest)
    obtain ⟨opening, closing, rfl, noQuote⟩ := head.head
    have remaining : readCharacters steps (otherText ++ '"' :: rest) = some (others, rest) := by
      apply inductionHypothesis
      rw [List.length_append, List.length_cons] at enough
      omega
    rw [List.append_assoc, List.cons_append]
    rw [List.cons_append] at read
    rw [readCharacters, read, Option.bind_some]
    · simp only [remaining, Option.map_some]
    · intro _ same
      exact noQuote (List.cons.inj same).1

theorem readString_append {content : String} {text : List Char}
    (spelled : SpellsString content.toList text) (rest : List Char) :
    readString (text ++ '"' :: rest) = some (content, rest) := by
  have enough : text.length < (text ++ '"' :: rest).length := by
    rw [List.length_append, List.length_cons]
    omega
  simp only [readString, readCharacters_append spelled rest _ enough, Option.map_some,
    String.ofList_toList]

/-! ## Where a value ends -/

/-- What may stand behind a value: nothing, or a character that is in no number. -/
def Ends (rest : List Char) : Prop := ∀ next ∈ rest.head?, isNumeric next = false

/-- What may stand behind a value and the blanks behind it. -/
def Stops (rest : List Char) : Prop := ∀ next ∈ rest.head?, next ∈ [',', ']', '\x7d']

/-- What may stand at the head of a value. -/
def Opens (text : List Char) : Prop :=
  ∃ first others, text = first :: others ∧ isBlank first = false ∧ first ∉ [',', ']', '\x7d']

theorem takeWhile_append_of_head {accepts : Char → Bool} {text rest : List Char}
    (accepted : ∀ character ∈ text, accepts character = true)
    (ends : ∀ next ∈ rest.head?, accepts next = false) :
    (text ++ rest).takeWhile accepts = text := by
  rw [List.takeWhile_append_of_pos accepted]
  cases rest with
  | nil => exact List.append_nil _
  | cons next rest =>
    rw [List.takeWhile_cons_of_neg (Bool.eq_false_iff.mp (ends next rfl))]
    exact List.append_nil _

theorem dropWhile_append_of_head {accepts : Char → Bool} {text rest : List Char}
    (accepted : ∀ character ∈ text, accepts character = true)
    (ends : ∀ next ∈ rest.head?, accepts next = false) :
    (text ++ rest).dropWhile accepts = rest := by
  rw [List.dropWhile_append_of_pos accepted]
  cases rest with
  | nil => rfl
  | cons next rest => exact List.dropWhile_cons_of_neg (Bool.eq_false_iff.mp (ends next rfl))

theorem stops_cons {next : Char} (stop : next ∈ [',', ']', '\x7d']) (rest : List Char) :
    Stops (next :: rest) := by
  intro first same
  obtain rfl : next = first := Option.some.inj same
  exact stop

theorem Stops.not_blank {rest : List Char} (stops : Stops rest) :
    ∀ next ∈ rest.head?, isBlank next = false := by
  intro next first
  have stop := stops next first
  simp only [List.mem_cons, List.not_mem_nil, or_false] at stop
  rcases stop with rfl | rfl | rfl <;> rfl

theorem not_isNumeric_of_isBlank {character : Char} (blank : isBlank character = true) :
    isNumeric character = false := by
  simp only [isBlank, Bool.or_eq_true, beq_iff_eq] at blank
  rcases blank with ((rfl | rfl) | rfl) | rfl <;> rfl

/-- Blanks end a value, and so does what stands behind them. -/
theorem Stops.ends {after rest : List Char} (stops : Stops rest) (blank : Blank after) :
    Ends (after ++ rest) := by
  intro next first
  cases after with
  | nil =>
    have stop := stops next first
    simp only [List.mem_cons, List.not_mem_nil, or_false] at stop
    rcases stop with rfl | rfl | rfl <;> rfl
  | cons character after =>
    obtain rfl : character = next := Option.some.inj first
    exact not_isNumeric_of_isBlank (blank character List.mem_cons_self)

/-- The reader takes exactly this text for this content, whatever ends it. -/
def Takes {Content : Type} (reader : Reader Content) (Follows : List Char → Prop)
    (content : Content) (text : List Char) : Prop :=
  ∀ rest, Follows rest → reader (text ++ rest) = some (content, rest)

theorem Opens.append {text : List Char} (opens : Opens text) (behind : List Char) :
    Opens (text ++ behind) := by
  obtain ⟨first, others, rfl, notBlank, noStop⟩ := opens
  exact ⟨first, others ++ behind, rfl, notBlank, noStop⟩

theorem Opens.not_blank {text : List Char} (opens : Opens text) :
    ∀ next ∈ text.head?, isBlank next = false := by
  obtain ⟨first, others, rfl, notBlank, -⟩ := opens
  intro next same
  obtain rfl : first = next := Option.some.inj same
  exact notBlank

theorem Opens.behind_blanks {before text : List Char} (opens : Opens text)
    (blank : Blank before) : Opens ((before ++ text).dropWhile isBlank) := by
  rw [dropWhile_append_of_head blank opens.not_blank]
  exact opens

/-- Blanks on either side belong to the spelling of an element and are no part of its value. -/
theorem takes_readSpaced {Content : Type} {reader : Reader Content} {content : Content}
    {Follows : List Char → Prop} {before text after : List Char}
    (takes : Takes reader Follows content text) (opens : Opens text) (blankBefore : Blank before)
    (blankAfter : Blank after) (follows : ∀ rest, Stops rest → Follows (after ++ rest)) :
    Takes (readSpaced reader) Stops content (before ++ (text ++ after)) := by
  intro rest stops
  have solid := (opens.append (after ++ rest)).not_blank
  rw [List.append_assoc, List.append_assoc, readSpaced, dropWhile_append_of_head blankBefore solid,
    takes _ (follows rest stops)]
  simp only [Option.map_some, dropWhile_append_of_head blankAfter stops.not_blank]

theorem takes_readElement {reader : Reader Value} {element : Element} (spaced : element.Spaced)
    (opens : Opens element.text) (takes : Takes reader Ends element.value element.text) :
    Takes (readSpaced reader) Stops element.value element.spelling :=
  takes_readSpaced takes opens spaced.before spaced.after
    fun _ stops => stops.ends spaced.after

section Rows

variable {Content Item : Type} {reader : Reader Content} {close : Char}
variable {content : Item → Content} {text : Item → List Char}

theorem mem_stops_of_closes (closes : close = ']' ∨ close = '\x7d') :
    close ∈ [',', ']', '\x7d'] := by
  rcases closes with rfl | rfl <;> decide

/-- A row of texts is read as the row of their contents. -/
theorem readRow_separated (closes : close = ']' ∨ close = '\x7d') (items : List Item)
    (some : items ≠ []) (takes : ∀ item ∈ items, Takes reader Stops (content item) (text item))
    (rest : List Char) :
    ∀ steps, items.length ≤ steps →
      readRow reader close steps (separated (items.map text) ++ close :: rest) =
        .some (items.map content, rest) := by
  induction items with
  | nil => exact absurd rfl some
  | cons first others inductionHypothesis =>
    intro steps enough
    obtain ⟨steps, rfl⟩ := Nat.exists_eq_add_one_of_ne_zero (Nat.ne_zero_of_lt enough)
    have firstTakes := takes first List.mem_cons_self
    cases others with
    | nil =>
      have stops : Stops (close :: rest) := stops_cons (mem_stops_of_closes closes) rest
      rw [List.map_singleton, separated, readRow, firstTakes _ stops]
      rcases closes with rfl | rfl <;> rfl
    | cons second others =>
      have stops : ∀ row : List Char, Stops (',' :: row) := stops_cons (by decide)
      have remaining := inductionHypothesis (List.cons_ne_nil _ _)
        (fun item member => takes item (List.mem_cons_of_mem _ member)) steps
        (Nat.le_of_succ_le_succ enough)
      rw [List.map_cons, List.map_cons, separated, List.append_assoc, List.cons_append, readRow,
        firstTakes _ (stops _)]
      · rw [List.map_cons] at remaining
        simp only [Option.bind_some, remaining, Option.map_some]
        rfl
      · exact List.cons_ne_nil _ _

theorem length_separated_cons (first second : List Char) (others : List (List Char)) :
    (separated (first :: second :: others)).length =
      first.length + ((separated (second :: others)).length + 1) :=
  List.length_append

/-- There are never more elements than characters to spell them, so the steps of the reader
suffice. -/
theorem length_le_separated (texts : List (List Char)) :
    texts.length ≤ (separated texts).length + 1 := by
  induction texts with
  | nil => exact Nat.zero_le _
  | cons first others inductionHypothesis =>
    cases others with
    | nil => exact Nat.le_add_left _ _
    | cons second others =>
      rw [List.length_cons, length_separated_cons]
      omega

theorem exists_separated_cons (first : List Char) (others : List (List Char)) :
    ∃ behind, separated (first :: others) = first ++ behind := by
  cases others with
  | nil => exact ⟨[], (List.append_nil _).symm⟩
  | cons second others => exact ⟨_, rfl⟩

/-- The first text of a row shows that the row is not empty. -/
theorem readRowOrNone_separated (closes : close = ']' ∨ close = '\x7d') (items : List Item)
    (some : items ≠ [])
    (opens : ∀ item ∈ items, ∀ behind, Opens ((text item ++ behind).dropWhile isBlank))
    (takes : ∀ item ∈ items, Takes reader Stops (content item) (text item)) (rest : List Char) :
    readRowOrNone reader close (separated (items.map text) ++ close :: rest) =
      .some (items.map content, rest) := by
  have enough : items.length ≤ (separated (items.map text) ++ close :: rest).length := by
    have fewer := length_le_separated (items.map text)
    rw [List.length_map] at fewer
    rw [List.length_append, List.length_cons]
    omega
  have read := readRow_separated closes items some takes rest _ enough
  obtain ⟨first, others, rfl⟩ := List.exists_cons_of_ne_nil some
  obtain ⟨behind, split⟩ := exists_separated_cons (text first) (others.map text)
  obtain ⟨next, left, found, -, noClose⟩ :=
    opens first List.mem_cons_self (behind ++ close :: rest)
  have differs : next ≠ close := by
    rintro rfl
    exact noClose (mem_stops_of_closes closes)
  have opened : (separated ((first :: others).map text) ++ close :: rest).dropWhile isBlank =
      next :: left := by
    rw [List.map_cons, split, List.append_assoc, found]
  rw [readRowOrNone, opened]
  exact (if_neg differs).trans read

theorem readRowOrNone_blanks (closes : close = ']' ∨ close = '\x7d')
    {blanks : List Char} (blank : Blank blanks) (rest : List Char) :
    readRowOrNone reader close (blanks ++ close :: rest) = some ([], rest) := by
  have stops : Stops (close :: rest) := stops_cons (mem_stops_of_closes closes) rest
  rw [readRowOrNone, dropWhile_append_of_head blank stops.not_blank]
  exact if_pos rfl

end Rows

/-! ## What values are read as -/

/-- A number has no closing character, so what follows has to end it. -/
theorem takes_readNumber {text : List Char} (wellFormed : isNumber text = true) :
    Takes readNumber Ends (.number text) text := by
  intro rest ends
  have numeric : ∀ character ∈ text, isNumeric character = true := by
    rw [isNumber, Bool.and_eq_true] at wellFormed
    exact List.all_eq_true.mp wellFormed.1
  simp only [readNumber, takeWhile_append_of_head numeric ends,
    dropWhile_append_of_head numeric ends, wellFormed, if_true]

theorem Element.opens_spelling {element : Element} (spaced : element.Spaced)
    (opens : Opens element.text) (behind : List Char) :
    Opens ((element.spelling ++ behind).dropWhile isBlank) := by
  rw [Element.spelling, List.append_assoc, List.append_assoc]
  exact (opens.append (element.after ++ behind)).behind_blanks spaced.before

theorem Member.opens_quoted (member : Member) : Opens member.quoted :=
  ⟨_, _, rfl, rfl, by decide⟩

theorem Member.opens_spelling {member : Member} (spaced : member.Spaced) (behind : List Char) :
    Opens ((member.spelling ++ behind).dropWhile isBlank) := by
  rw [Member.spelling, List.append_assoc]
  exact (member.opens_quoted.append behind).behind_blanks spaced.before

/-- A field is read when its value is. -/
theorem takes_readMember {reader : Reader Value} {member : Member} (spaced : member.Spaced)
    (opens : Opens member.element.text)
    (takes : Takes reader Ends member.element.value member.element.text) :
    Takes (readSpaced (readField reader)) Stops member.field member.spelling := by
  have field : Takes (readField reader) Stops member.field member.quoted := by
    intro rest stops
    have element := takes_readElement spaced.element opens takes rest stops
    have colon : ∀ next ∈ (':' :: (member.element.spelling ++ rest)).head?,
        isBlank next = false := by
      intro next same
      obtain rfl : ':' = next := Option.some.inj same
      rfl
    simp only [Member.quoted, List.cons_append, List.append_assoc, readField,
      readString_append spaced.name, Option.bind_some,
      dropWhile_append_of_head spaced.after colon, element, Option.map_some]
    rfl
  have whole : Takes (readSpaced (readField reader)) Stops member.field
      (member.before ++ (member.quoted ++ [])) :=
    takes_readSpaced field member.opens_quoted spaced.before (List.forall_mem_nil _)
      fun _ stops => stops
  rw [List.append_nil] at whole
  exact whole

theorem isNumeric_head {text : List Char} (wellFormed : isNumber text = true) :
    ∃ first others, text = first :: others ∧ isNumeric first = true := by
  cases text with
  | nil => cases wellFormed
  | cons first others =>
    rw [isNumber, Bool.and_eq_true] at wellFormed
    exact ⟨first, others, rfl, List.all_eq_true.mp wellFormed.1 first List.mem_cons_self⟩

theorem opens_of_isNumber {text : List Char} (wellFormed : isNumber text = true) : Opens text := by
  obtain ⟨first, others, rfl, numeric⟩ := isNumeric_head wellFormed
  refine ⟨first, others, rfl, ?_, ?_⟩
  · apply Bool.eq_false_iff.mpr
    intro blank
    rw [not_isNumeric_of_isBlank blank] at numeric
    cases numeric
  · intro stop
    simp only [List.mem_cons, List.not_mem_nil, or_false] at stop
    rcases stop with rfl | rfl | rfl <;> cases numeric

/-- No value begins with a blank or with a character that separates or closes, by which a reader
tells a first element from none. -/
theorem Spells.opens {value : Value} {text : List Char} (spelled : Spells value text) :
    Opens text := by
  cases spelled with
  | number wellFormed => exact opens_of_isNumber wellFormed
  | _ => exact ⟨_, _, rfl, rfl, by decide⟩

theorem readValue_number {first : Char} (numeric : isNumeric first = true) (steps : Nat)
    (others : List Char) :
    readValue (steps + 1) (first :: others) = readNumber (first :: others) := by
  rw [readValue]
  all_goals
    intro _ same
    obtain ⟨rfl, -⟩ := List.cons.inj same
    cases numeric

theorem Element.length_text_le (element : Element) :
    element.text.length ≤ element.spelling.length := by
  rw [Element.spelling, List.length_append, List.length_append]
  omega

theorem Member.length_text_le (member : Member) :
    member.element.text.length ≤ member.spelling.length := by
  have inner := member.element.length_text_le
  simp only [Member.spelling, Member.quoted, List.length_append, List.length_cons]
  omega

theorem length_le_of_mem_separated {text : List Char} {texts : List (List Char)}
    (member : text ∈ texts) : text.length ≤ (separated texts).length := by
  induction texts with
  | nil => cases member
  | cons first others inductionHypothesis =>
    cases others with
    | nil =>
      rw [List.mem_singleton.mp member]
      exact Nat.le_refl _
    | cons second others =>
      rw [length_separated_cons]
      rcases List.mem_cons.mp member with rfl | later
      · omega
      · have short := inductionHypothesis later
        omega

/-- A text of a value is read as that value, whatever ends it. -/
theorem takes_readValue {value : Value} {text : List Char} (spelled : Spells value text) :
    ∀ steps, text.length ≤ steps → Takes (readValue steps) Ends value text := by
  induction spelled with
  | null | no | yes =>
    rintro (_ | steps) enough rest _
    · cases enough
    · rfl
  | number wellFormed =>
    obtain ⟨first, others, rfl, numeric⟩ := isNumeric_head wellFormed
    rintro (_ | steps) enough rest ends
    · cases enough
    · rw [List.cons_append, readValue_number numeric]
      exact takes_readNumber wellFormed rest ends
  | string spelled =>
    rintro (_ | steps) enough rest _
    · cases enough
    · simp only [List.cons_append, List.append_assoc, List.nil_append, readValue,
        readString_append spelled, Option.map_some]
  | emptyArray blank =>
    rintro (_ | steps) enough rest _
    · cases enough
    · simp only [List.cons_append, List.append_assoc, List.nil_append, readValue,
        readRowOrNone_blanks (.inl rfl) blank, Option.map_some]
  | array some spaced spelled inductionHypothesis =>
    rename_i elements
    rintro (_ | steps) enough rest _
    · cases enough
    · have takes : ∀ element ∈ elements,
          Takes (readSpaced (readValue steps)) Stops element.value element.spelling := by
        intro element member
        have inner := element.length_text_le
        have outer : element.spelling.length ≤ (separated (elements.map Element.spelling)).length :=
          length_le_of_mem_separated (List.mem_map_of_mem member)
        apply takes_readElement (spaced element member) (spelled element member).opens
        apply inductionHypothesis element member
        simp only [array, List.length_cons, List.length_append] at enough
        omega
      have opens : ∀ element ∈ elements, ∀ behind,
          Opens ((element.spelling ++ behind).dropWhile isBlank) := by
        intro element member
        exact Element.opens_spelling (spaced element member) (spelled element member).opens
      simp only [array, List.cons_append, List.append_assoc, List.nil_append, readValue,
        readRowOrNone_separated (.inl rfl) elements some opens takes, Option.map_some]
  | emptyObject blank =>
    rintro (_ | steps) enough rest _
    · cases enough
    · simp only [List.cons_append, List.append_assoc, List.nil_append, readValue,
        readRowOrNone_blanks (.inr rfl) blank, Option.map_some]
  | object some spaced spelled inductionHypothesis =>
    rename_i members
    rintro (_ | steps) enough rest _
    · cases enough
    · have takes : ∀ member ∈ members,
          Takes (readSpaced (readField (readValue steps))) Stops member.field member.spelling := by
        intro member isMember
        have inner := member.length_text_le
        have outer : member.spelling.length ≤ (separated (members.map Member.spelling)).length :=
          length_le_of_mem_separated (List.mem_map_of_mem isMember)
        apply takes_readMember (spaced member isMember) (spelled member isMember).opens
        apply inductionHypothesis member isMember
        simp only [object, List.length_cons, List.length_append] at enough
        omega
      have opens : ∀ member ∈ members, ∀ behind,
          Opens ((member.spelling ++ behind).dropWhile isBlank) := by
        intro member isMember
        exact Member.opens_spelling (spaced member isMember)
      simp only [object, List.cons_append, List.append_assoc, List.nil_append, readValue,
        readRowOrNone_separated (.inr rfl) members some opens takes, Option.map_some]

/-- A text of a value with blanks around it is read as that value. -/
theorem read_of_spells {value : Value} {text before after : List Char}
    (spelled : Spells value text) (blankBefore : Blank before) (blankAfter : Blank after) :
    read (before ++ (text ++ after)) = some value := by
  have enough : text.length ≤ (before ++ (text ++ after)).length := by
    rw [List.length_append, List.length_append]
    omega
  have takes := takes_readSpaced (takes_readValue spelled _ enough) spelled.opens blankBefore
    blankAfter (fun _ stops => stops.ends blankAfter)
  have stops : Stops [] := by
    intro next first
    cases first
  have whole := takes [] stops
  rw [List.append_nil] at whole
  rw [read, whole]

/-- No text has two values. -/
theorem Spells.unique {value other : Value} {text : List Char} (spelled : Spells value text)
    (otherSpelled : Spells other text) : value = other := by
  have read := read_of_spells spelled (List.forall_mem_nil _) (List.forall_mem_nil _)
  rw [read_of_spells otherSpelled (List.forall_mem_nil _) (List.forall_mem_nil _)] at read
  exact (Option.some.inj read).symm

end CompilerFront.Text.Json
