import Mathlib
import CompilerFront.Proofs.Settings.Precedence

/-!
Contract: what a variable of the environment gives.

Owns:
- `Text.Trims`, by which a text is what is left of another one without the blanks at its ends;
- `Gives`, a variable with the text it gives, which is never blank;
- `IsCount`, a number below 2^64 written in decimal digits;
- `Repadded`, a variable with more blanks at its ends, or a blank one that is removed.

Does not own: which settings the variables override (`CompilerFront.Proofs.Settings.Overrides`).
-/

namespace CompilerFront.Text

/-! ## Blanks at the ends -/

/-- All characters of a text are blank, if there are any. -/
def Blank (text : String) : Prop := ∀ character ∈ text.toList, isBlank character = true

/-- What is left of a text without the blanks at its ends: it has no blank there itself. -/
structure Trims (raw value : String) : Prop where
  split : ∃ left right : String, Blank left ∧ Blank right ∧ raw = left ++ value ++ right
  first : ∀ character ∈ value.toList.head?, isBlank character = false
  last : ∀ character ∈ value.toList.getLast?, isBlank character = false

variable {raw value left right : String}

theorem Blank.append (leftBlank : Blank left) (rightBlank : Blank right) :
    Blank (left ++ right) := by
  intro character member
  rw [String.toList_append, List.mem_append] at member
  exact member.elim (leftBlank character) (rightBlank character)

theorem toList_trim (text : String) :
    (trim text).toList = (text.toList.dropWhile isBlank).rdropWhile isBlank :=
  String.toList_ofList

theorem dropWhile_of_head? {characters : List Char}
    (first : ∀ character ∈ characters.head?, isBlank character = false) :
    characters.dropWhile isBlank = characters := by
  cases characters with
  | nil => rfl
  | cons character rest => exact List.dropWhile_cons_of_neg (by simp [first character rfl])

theorem isBlank_of_mem_head? (characters : List Char) :
    ∀ character ∈ (characters.dropWhile isBlank).head?, isBlank character = false := by
  intro character isFirst
  have stopped := List.head?_dropWhile_not isBlank characters
  rw [Option.mem_def.mp isFirst] at stopped
  exact stopped

/-- Trimming gives the only text that can be left: no blanks at its ends, and blanks around it. -/
theorem trim_of_trims (trims : Trims raw value) : trim raw = value := by
  obtain ⟨⟨left, right, leftBlank, rightBlank, rfl⟩, first, last⟩ := trims
  have start : (left ++ value ++ right).toList.dropWhile isBlank =
      (value.toList ++ right.toList).dropWhile isBlank := by
    rw [String.toList_append, String.toList_append, List.append_assoc,
      List.dropWhile_append_of_pos leftBlank]
  apply String.toList_injective
  rw [toList_trim, start]
  by_cases empty : value.toList = []
  · rw [empty, List.nil_append, List.dropWhile_eq_nil_iff.mpr rightBlank, List.rdropWhile_nil]
  · rw [dropWhile_of_head? (by rwa [List.head?_append_of_ne_nil _ empty]), List.rdropWhile,
      List.reverse_append,
      List.dropWhile_append_of_pos fun character member =>
        rightBlank character (List.mem_reverse.mp member),
      dropWhile_of_head? (by rwa [List.head?_reverse]), List.reverse_reverse]

theorem trims_trim (raw : String) : Trims raw (trim raw) where
  split := by
    refine ⟨String.ofList (raw.toList.takeWhile isBlank),
      String.ofList ((raw.toList.dropWhile isBlank).reverse.takeWhile isBlank).reverse, ?_, ?_, ?_⟩
    · intro character member
      rw [String.toList_ofList] at member
      exact List.mem_takeWhile_imp member
    · intro character member
      rw [String.toList_ofList, List.mem_reverse] at member
      exact List.mem_takeWhile_imp member
    · apply String.toList_injective
      rw [String.toList_append, String.toList_append, toList_trim, String.toList_ofList,
        String.toList_ofList, List.append_assoc, List.rdropWhile, ← List.reverse_append,
        List.takeWhile_append_dropWhile, List.reverse_reverse, List.takeWhile_append_dropWhile]
  first character isFirst := by
    rw [toList_trim] at isFirst
    obtain ⟨dropped, split⟩ := List.rdropWhile_prefix isBlank (raw.toList.dropWhile isBlank)
    apply isBlank_of_mem_head? raw.toList
    rw [← split]
    exact List.mem_head?_append_of_mem_head? isFirst
  last character isLast := by
    rw [toList_trim, List.rdropWhile, List.getLast?_reverse] at isLast
    exact isBlank_of_mem_head? _ character isLast

/-- Trimming leaves what stands between the blanks at the ends. -/
theorem trim_eq_iff : trim raw = value ↔ Trims raw value := by
  constructor
  · rintro rfl
    exact trims_trim raw
  · exact trim_of_trims

/-- Blanks that are added at the ends are trimmed off again. -/
theorem Trims.padded (trims : Trims raw value) (leftBlank : Blank left)
    (rightBlank : Blank right) : Trims (left ++ raw ++ right) value where
  split := by
    obtain ⟨before, behind, beforeBlank, behindBlank, rfl⟩ := trims.split
    refine ⟨left ++ before, behind ++ right, ?_, ?_, by simp only [String.append_assoc]⟩
    · exact leftBlank.append beforeBlank
    · exact behindBlank.append rightBlank
  first := trims.first
  last := trims.last

/-- Nothing is left of a text just when it is blank. -/
theorem trim_isEmpty_iff : (trim raw).isEmpty = true ↔ Blank raw := by
  rw [String.isEmpty_iff, trim_eq_iff]
  constructor
  · intro trims
    obtain ⟨left, right, leftBlank, rightBlank, rfl⟩ := trims.split
    rw [String.append_empty]
    exact leftBlank.append rightBlank
  · intro blank
    exact ⟨⟨raw, "", blank, nofun, by simp⟩, nofun, nofun⟩

end CompilerFront.Text

namespace CompilerFront.Settings

/-! ## Variables -/

/-- A variable is set, and gives what is left of its value without the blanks at its ends. -/
def Gives (environment : Environment) (name text : String) : Prop :=
  ∃ raw, environment name = some raw ∧ Text.Trims raw text ∧ text ≠ ""

/-- Blanks are added at the ends of what a variable is set to, or it is no longer set to blanks. -/
inductive Repadded : Option String → Option String → Prop where
  | same (value : Option String) : Repadded value value
  | padded (raw left right : String) (leftBlank : Text.Blank left) (rightBlank : Text.Blank right) :
    Repadded (some raw) (some (left ++ raw ++ right))
  | removed (raw : String) (blank : Text.Blank raw) : Repadded (some raw) none

variable {environment other : Environment} {name text : String}

theorem Gives.not_blank (gives : Gives environment name text) : ¬Text.Blank text := by
  obtain ⟨raw, set, trims, nonempty⟩ := gives
  intro blank
  have empty : text.toList.head? = none := by
    apply Option.eq_none_iff_forall_ne_some.mpr
    intro character isFirst
    have notBlank := trims.first character isFirst
    rw [blank character (List.mem_of_mem_head? isFirst)] at notBlank
    cases notBlank
  exact nonempty (String.toList_eq_nil_iff.mp (List.head?_eq_none_iff.mp empty))

theorem givenValue?_eq_some_iff_gives :
    givenValue? environment name = some text ↔ Gives environment name text := by
  simp only [givenValue?_eq_some_iff, Gives, Text.trim_eq_iff]

theorem givenValue?_eq_none_iff :
    givenValue? environment name = none ↔ ∀ text, ¬Gives environment name text := by
  simp only [Option.eq_none_iff_forall_ne_some, ne_eq, givenValue?_eq_some_iff_gives]

/-- More blanks make no difference to what a variable gives. -/
theorem givenValue?_of_repadded (repadded : Repadded (environment name) (other name)) :
    givenValue? other name = givenValue? environment name := by
  unfold givenValue?
  generalize environment name = value at repadded
  generalize other name = otherValue at repadded
  cases repadded with
  | same => rfl
  | padded raw left right leftBlank rightBlank =>
    have trims := (Text.trims_trim raw).padded leftBlank rightBlank
    rw [Option.map_some, Option.map_some, Text.trim_of_trims trims]
  | removed raw blank =>
    have nothing := Text.trim_isEmpty_iff.mpr blank
    rw [Option.map_some, Option.filter_some, nothing]
    rfl

/-! ## Numbers -/

def decimal (digits : List Char) : Nat :=
  Nat.ofDigits 10 (digits.reverse.map fun digit => digit.toNat - '0'.toNat)

/-- A number below 2^64: decimal digits, with a plus before them or not. -/
structure IsCount (text : String) (number : Nat) : Prop where
  written : ∃ sign digits : List Char, (sign = [] ∨ sign = ['+']) ∧ digits ≠ [] ∧
    (∀ digit ∈ digits, digit.isDigit = true) ∧ text.toList = sign ++ digits ∧
      decimal digits = number
  small : number < 2 ^ 64

/-- Digits that are read one by one, each behind the number so far, have their decimal value. -/
theorem foldl_eq_decimal (digits : List Char) :
    digits.foldl (fun value digit => value * 10 + (digit.toNat - '0'.toNat)) 0 =
      decimal digits := by
  rw [decimal, Nat.ofDigits_eq_foldr, List.foldr_map, List.foldr_reverse]
  simp only [Nat.cast_id, Nat.add_comm, Nat.mul_comm]

/-- What follows a plus, or the whole text without one. -/
def unsigned : List Char → List Char
  | '+' :: rest => rest
  | characters => characters

/-- One plus sign in front is skipped; a second one belongs to the digits and spoils them. -/
theorem exists_sign (characters : List Char) :
    ∃ sign, (sign = [] ∨ sign = ['+']) ∧ characters = sign ++ unsigned characters := by
  unfold unsigned
  split
  case h_1 rest => exact ⟨['+'], .inr rfl, rfl⟩
  case h_2 => exact ⟨[], .inl rfl, rfl⟩

theorem unsigned_append {sign digits : List Char} (isSign : sign = [] ∨ sign = ['+'])
    (allDigits : ∀ digit ∈ digits, digit.isDigit = true) : unsigned (sign ++ digits) = digits := by
  obtain rfl | rfl := isSign
  · rw [List.nil_append]
    unfold unsigned
    split
    case h_1 rest => cases allDigits '+' List.mem_cons_self
    case h_2 => rfl
  · rfl

/-- A count is a row of digits below two to the sixty-fourth, with or without a plus sign. -/
theorem count?_eq (text : String) :
    count? text =
      if unsigned text.toList ≠ [] ∧ (∀ digit ∈ unsigned text.toList, digit.isDigit = true) ∧
          decimal (unsigned text.toList) < 2 ^ 64 then
        some (decimal (unsigned text.toList))
      else none := by
  have computed : count? text =
      if !(unsigned text.toList).isEmpty && (unsigned text.toList).all Char.isDigit &&
          (unsigned text.toList).foldl
            (fun value digit => value * 10 + (digit.toNat - '0'.toNat)) 0 < 2 ^ 64 then
        some ((unsigned text.toList).foldl
          (fun value digit => value * 10 + (digit.toNat - '0'.toNat)) 0)
      else none := rfl
  rw [computed, foldl_eq_decimal]
  simp only [Bool.and_eq_true, Bool.not_eq_true', List.isEmpty_eq_false_iff, List.all_eq_true,
    decide_eq_true_eq, and_assoc, ne_eq]

/-- A number is read just when it is written down in digits and small enough. -/
theorem count?_eq_some_iff {text : String} {number : Nat} :
    count? text = some number ↔ IsCount text number := by
  rw [count?_eq]
  constructor
  · intro counted
    split at counted
    case isTrue holds =>
      obtain ⟨nonempty, allDigits, small⟩ := holds
      obtain ⟨sign, isSign, written⟩ := exists_sign text.toList
      obtain rfl := Option.some.inj counted
      exact ⟨⟨sign, _, isSign, nonempty, allDigits, written, rfl⟩, small⟩
    case isFalse => cases counted
  · rintro ⟨⟨sign, digits, isSign, nonempty, allDigits, written, rfl⟩, small⟩
    rw [written, unsigned_append isSign allDigits]
    exact if_pos ⟨nonempty, allDigits, small⟩

end CompilerFront.Settings
