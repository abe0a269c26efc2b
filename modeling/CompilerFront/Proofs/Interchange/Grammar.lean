import CompilerFront.Expr.Literal
import CompilerFront.Text.Json

/-!
Contract: the interchange form as a grammar, apart from who writes it and who reads it.

Owns:
- `Value`, what a text of the interchange form denotes;
- the spellings of characters and strings, with all escapes that the form has;
- `Spells`, which relates a value to each of its texts, with any blanks that are allowed.

A number is kept as it is written. Escapes that denote no character, such as half of a pair, are in
no spelling.
-/

namespace CompilerFront.Text.Json

/-- What a text of the interchange form denotes. -/
inductive Value where
  | null
  | flag (value : Bool)
  | number (text : List Char)
  | string (text : String)
  | array (elements : List Value)
  | object (members : List (String × Value))

/-! ## Blanks -/

def isBlank (character : Char) : Bool :=
  character == ' ' || character == '\t' || character == '\n' || character == '\r'

def Blank (text : List Char) : Prop := ∀ character ∈ text, isBlank character = true

/-! ## Strings -/

/-- The character that a letter behind a backslash stands for. -/
def shortEscape? : Char → Option Char
  | '"' => some '"'
  | '\\' => some '\\'
  | '/' => some '/'
  | 'b' => some '\x08'
  | 'f' => some '\x0c'
  | 'n' => some '\n'
  | 'r' => some '\r'
  | 't' => some '\t'
  | _ => none

/-- Four hexadecimal digits that denote a number. -/
structure CodeUnit (digits : List Char) (number : Nat) : Prop where
  four : digits.length = 4
  hexadecimal : digits.all (Expr.isDigitOf 16) = true
  denotes : Expr.positional 16 digits = number

def isHigh (unit : Nat) : Bool := 0xD800 ≤ unit && unit < 0xDC00

def isLow (unit : Nat) : Bool := 0xDC00 ≤ unit && unit < 0xE000

/-- The code point of a pair of units. -/
def joined (high low : Nat) : Nat := 0x10000 + (high - 0xD800) * 0x400 + (low - 0xDC00)

/-- The ways to write a character in a string. -/
inductive SpellsCharacter (character : Char) : List Char → Prop where
  | plain (noQuote : character ≠ '"') (noBackslash : character ≠ '\\')
      (noControl : 0x20 ≤ character.toNat) : SpellsCharacter character [character]
  | short {letter : Char} (known : shortEscape? letter = some character) :
      SpellsCharacter character ['\\', letter]
  | unit {digits : List Char} (denotes : CodeUnit digits character.toNat) :
      SpellsCharacter character ('\\' :: 'u' :: digits)
  | pair {digits lowDigits : List Char} {high low : Nat} (first : CodeUnit digits high)
      (second : CodeUnit lowDigits low) (isHigh : isHigh high = true) (isLow : isLow low = true)
      (denotes : joined high low = character.toNat) :
      SpellsCharacter character ('\\' :: 'u' :: (digits ++ '\\' :: 'u' :: lowDigits))

/-- The ways to write characters one behind the other. -/
inductive SpellsString : List Char → List Char → Prop where
  | nil : SpellsString [] []
  | cons {first : Char} {others firstText otherText : List Char}
      (head : SpellsCharacter first firstText) (tail : SpellsString others otherText) :
      SpellsString (first :: others) (firstText ++ otherText)

/-! ## Numbers -/

def isDecimal (character : Char) : Bool := Expr.isDigitOf 10 character

def isNumeric (character : Char) : Bool := isDecimal character || "+-.eE".toList.contains character

/-- What stands behind a row of at least one digit. -/
def behindDigits? (text : List Char) : Option (List Char) :=
  if (text.takeWhile isDecimal).isEmpty then none else some (text.dropWhile isDecimal)

/-- What stands behind the sign and the whole part of a number, which starts with no needless
zero. -/
def behindWhole? : List Char → Option (List Char)
  | '-' :: '0' :: rest => some rest
  | '0' :: rest => some rest
  | '-' :: rest => behindDigits? rest
  | text => behindDigits? text

def behindFraction? : List Char → Option (List Char)
  | '.' :: rest => behindDigits? rest
  | text => some text

def behindExponent? : List Char → Option (List Char)
  | marker :: rest =>
    if marker = 'e' ∨ marker = 'E' then
      match rest with
      | '+' :: digits => behindDigits? digits
      | '-' :: digits => behindDigits? digits
      | digits => behindDigits? digits
    else some (marker :: rest)
  | [] => some []

/-- The text is a number, and nothing stands behind it. -/
def isNumber (text : List Char) : Bool :=
  text.all isNumeric &&
    (((behindWhole? text).bind behindFraction?).bind behindExponent?) == some []

/-! ## Values -/

/-- A value with its text and the blanks around it. -/
structure Element where
  before : List Char
  value : Value
  text : List Char
  after : List Char

namespace Element

def spelling (element : Element) : List Char := element.before ++ (element.text ++ element.after)

structure Spaced (element : Element) : Prop where
  before : Blank element.before
  after : Blank element.after

end Element

/-- A field with its name, the text of the name, and the blanks around that. -/
structure Member where
  before : List Char
  name : String
  nameText : List Char
  after : List Char
  element : Element

namespace Member

/-- A field from its opening quote on. -/
def quoted (member : Member) : List Char :=
  '"' :: (member.nameText ++ '"' :: (member.after ++ ':' :: member.element.spelling))

def spelling (member : Member) : List Char := member.before ++ member.quoted

def field (member : Member) : String × Value := (member.name, member.element.value)

structure Spaced (member : Member) : Prop where
  before : Blank member.before
  name : SpellsString member.name.toList member.nameText
  after : Blank member.after
  element : member.element.Spaced

end Member

/-- The texts of a value; no blanks stand around it. -/
inductive Spells : Value → List Char → Prop where
  | null : Spells .null ['n', 'u', 'l', 'l']
  | no : Spells (.flag false) ['f', 'a', 'l', 's', 'e']
  | yes : Spells (.flag true) ['t', 'r', 'u', 'e']
  | number {text : List Char} (wellFormed : isNumber text = true) : Spells (.number text) text
  | string {content : String} {text : List Char} (spelled : SpellsString content.toList text) :
      Spells (.string content) ('"' :: (text ++ ['"']))
  | emptyArray {blanks : List Char} (blank : Blank blanks) :
      Spells (.array []) ('[' :: (blanks ++ [']']))
  | array {elements : List Element} (some : elements ≠ [])
      (spaced : ∀ element ∈ elements, element.Spaced)
      (spelled : ∀ element ∈ elements, Spells element.value element.text) :
      Spells (.array (elements.map Element.value)) (array (elements.map Element.spelling))
  | emptyObject {blanks : List Char} (blank : Blank blanks) :
      Spells (.object []) ('\x7b' :: (blanks ++ ['\x7d']))
  | object {members : List Member} (some : members ≠ [])
      (spaced : ∀ member ∈ members, member.Spaced)
      (spelled : ∀ member ∈ members, Spells member.element.value member.element.text) :
      Spells (.object (members.map Member.field)) (object (members.map Member.spelling))

end CompilerFront.Text.Json
