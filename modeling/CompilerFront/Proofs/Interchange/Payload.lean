import CompilerFront.Proofs.Interchange.Reader
import CompilerFront.Proofs.Interchange.Writer
import CompilerFront.Request

/-!
Contract: the line that asks for a build says which build, to any reader of the interchange form.

Owns:
- `Request.value`, what the record of a request denotes, and `Request.ofValue?`, which takes the
  request from that;
- `Request.bytes`, the payload as it is sent, and `Request.ofBytes?`, which reads requests off the
  head of a stream;
- `Wire`, what holds of a payload, and `wire_of_request`, that it holds of every payload.
-/

namespace CompilerFront

open Text

/-! ## What a record denotes -/

namespace Request

/-- A field that is left out when there is no value for it. -/
def optionalMember (name : String) (value : Option String) : List (String × Json.Value) :=
  match value with
  | some text => [(name, .string text)]
  | none => []

/-- What the record of a request denotes. -/
def value (request : Request) : Json.Value :=
  .object
    (optionalMember "fileName" request.fileName ++
      (optionalMember "configPath" request.configPath ++
        [("projectNames", .array (request.projectNames.map .string)),
          ("additionalCliOptions", .object (optionalMember "mode" (request.mode.map Mode.name))),
          ("suppressLog", .flag request.suppressLog)]))

theorem spells_optionalField (name : String) (value : Option String) :
    List.Forall₂ Json.SpellsField (optionalMember name value) (optionalField name value) := by
  cases value with
  | none => exact .nil
  | some text => exact .cons ⟨_, rfl, Json.spells_string text⟩ .nil

theorem spells_flagText (flag : Bool) : Json.Spells (.flag flag) (flagText flag) := by
  cases flag
  · exact .no
  · exact .yes

theorem spells_projectNames (names : List String) :
    List.Forall₂ Json.Spells (names.map .string)
      (names.map fun name => Json.string name.toList) := by
  induction names with
  | nil => exact .nil
  | cons name names inductionHypothesis =>
    exact .cons (Json.spells_string name) inductionHypothesis

/-- The record of a request is a text of what it denotes. -/
theorem spells_characters (request : Request) : Json.Spells request.value request.characters := by
  apply Json.spells_object
  apply List.rel_append (spells_optionalField "fileName" request.fileName)
  apply List.rel_append (spells_optionalField "configPath" request.configPath)
  refine .cons ⟨_, rfl, ?_⟩ (.cons ⟨_, rfl, ?_⟩ (.cons ⟨_, rfl, ?_⟩ .nil))
  · exact Json.spells_array (spells_projectNames request.projectNames)
  · exact Json.spells_object (spells_optionalField "mode" (request.mode.map Mode.name))
  · exact spells_flagText request.suppressLog

end Request

/-! ## Taking a request from a record -/

namespace Text.Json.Value

def text? : Value → Option String
  | .string text => some text
  | _ => none

def flag? : Value → Option Bool
  | .flag value => some value
  | _ => none

def texts? : Value → Option (List String)
  | .array elements => elements.mapM text?
  | _ => none

def field? (value : Value) (name : String) : Option Value :=
  match value with
  | .object members => members.lookup name
  | _ => none

/-- The text of a field that need not be there; what is there has to be a text. -/
def optionalText? (value : Value) (name : String) : Option (Option String) :=
  match value.field? name with
  | some content => content.text?.map some
  | none => some none

end Text.Json.Value

def Mode.ofName? (name : String) : Option Mode :=
  [Mode.default, .checkOnly, .funcOnly, .fullWithDecompilation].find? fun mode => mode.name = name

theorem Mode.ofName?_name (mode : Mode) : Mode.ofName? mode.name = some mode := by
  cases mode <;> decide

namespace Request

/-- The mode that the options of a record ask for, if they ask for any. -/
def modeOf? (options : Json.Value) : Option (Option Mode) :=
  (options.optionalText? "mode").bind fun
    | some name => (Mode.ofName? name).map some
    | none => some none

/-- The request that a record asks for. -/
def ofValue? (value : Json.Value) : Option Request := do
  let fileName ← value.optionalText? "fileName"
  let configPath ← value.optionalText? "configPath"
  let projectNames ← (← value.field? "projectNames").texts?
  let mode ← modeOf? (← value.field? "additionalCliOptions")
  let suppressLog ← (← value.field? "suppressLog").flag?
  return { fileName, configPath, projectNames, mode, suppressLog }

theorem texts?_map (names : List String) :
    (Json.Value.array (names.map .string)).texts? = some names := by
  induction names with
  | nil => rfl
  | cons name names inductionHypothesis =>
    rw [Json.Value.texts?] at inductionHypothesis ⊢
    rw [List.map_cons, List.mapM_cons, inductionHypothesis]
    rfl

/-- The default mode is told by leaving the field out, so no field reads as no mode. -/
theorem modeOf?_optionalMember (mode : Option Mode) :
    modeOf? (.object (optionalMember "mode" (mode.map Mode.name))) = some mode := by
  cases mode with
  | none => rfl
  | some mode =>
    show (Mode.ofName? mode.name).map some = some (some mode)
    rw [Mode.ofName?_name]
    rfl

/-- What a record denotes is taken back from it, field by field. -/
theorem ofValue?_value (request : Request) : ofValue? request.value = some request := by
  have fileName : request.value.optionalText? "fileName" = some request.fileName := by
    unfold value
    cases request.fileName <;> cases request.configPath <;> rfl
  have configPath : request.value.optionalText? "configPath" = some request.configPath := by
    unfold value
    cases request.fileName <;> cases request.configPath <;> rfl
  have projectNames : request.value.field? "projectNames" =
      some (.array (request.projectNames.map .string)) := by
    unfold value
    cases request.fileName <;> cases request.configPath <;> rfl
  have options : request.value.field? "additionalCliOptions" =
      some (.object (optionalMember "mode" (request.mode.map Mode.name))) := by
    unfold value
    cases request.fileName <;> cases request.configPath <;> rfl
  have suppressLog : request.value.field? "suppressLog" = some (.flag request.suppressLog) := by
    unfold value
    cases request.fileName <;> cases request.configPath <;> rfl
  simp only [ofValue?, fileName, configPath, projectNames, options, suppressLog, texts?_map,
    modeOf?_optionalMember, Json.Value.flag?, Option.bind_eq_bind, Option.bind_some]
  rfl

end Request

/-! ## The line as it is sent -/

namespace Request

def bytes (request : Request) : List UInt8 := request.payload.flatMap String.utf8EncodeChar

/-- Reads a request off the head of a stream, up to the first line feed. -/
def ofBytes? (stream : List UInt8) : Option (Request × List UInt8) :=
  match stream.dropWhile (· != 0x0A) with
  | _ :: behind => do
    let characters ← (stream.takeWhile (· != 0x0A)).toByteArray.utf8Decode?
    let request ← ofValue? (← Json.read characters.toList)
    return (request, behind)
  | [] => none

theorem inline_optionalField (name : String) (value : Option String) :
    ∀ text ∈ optionalField name value, Json.Inline text := by
  cases value with
  | none => exact List.forall_mem_nil _
  | some text =>
    exact List.forall_mem_singleton.mpr (Json.inline_field (Json.inline_string text.toList))

theorem inline_flagText (flag : Bool) : Json.Inline (flagText flag) := by
  cases flag <;> simp [flagText, Json.Inline]

/-- The record of a request has no line break and no other character below U+0020. -/
theorem inline_characters (request : Request) : Json.Inline request.characters := by
  have projectNames : Json.Inline
      (Json.array (request.projectNames.map fun name => Json.string name.toList)) := by
    apply Json.inline_array
    intro text member
    obtain ⟨name, -, rfl⟩ := List.mem_map.mp member
    exact Json.inline_string name.toList
  have options := Json.inline_object (inline_optionalField "mode" (request.mode.map Mode.name))
  apply Json.inline_object
  rw [List.forall_mem_append, List.forall_mem_append, List.forall_mem_cons, List.forall_mem_cons,
    List.forall_mem_singleton]
  refine ⟨inline_optionalField "fileName" request.fileName,
    inline_optionalField "configPath" request.configPath, ?_, ?_, ?_⟩
  · exact Json.inline_field projectNames
  · exact Json.inline_field options
  · exact Json.inline_field (inline_flagText request.suppressLog)

/-- A character at or above U+0020 is encoded in such bytes. -/
theorem le_of_mem_utf8EncodeChar {character : Char} (inline : 0x20 ≤ character.toNat) :
    ∀ byte ∈ String.utf8EncodeChar character, 0x20 ≤ byte := by
  have bounded : ∀ number : Nat, 0x20 ≤ number → number < 0x100 → 0x20 ≤ UInt8.ofNat number := by
    intro number low high
    rw [UInt8.le_iff_toNat_le, UInt8.toNat_ofNat', Nat.mod_eq_of_lt high]
    exact low
  have point : 0x20 ≤ character.val.toNat := inline
  unfold String.utf8EncodeChar
  -- A single byte is the character itself, and every byte of several is at or above 0x80.
  dsimp only
  split
  · rw [List.forall_mem_singleton]
    apply bounded <;> omega
  split
  · rw [List.forall_mem_cons, List.forall_mem_singleton]
    constructor <;> apply bounded <;> omega
  split
  · rw [List.forall_mem_cons, List.forall_mem_cons, List.forall_mem_singleton]
    refine ⟨?_, ?_, ?_⟩ <;> apply bounded <;> omega
  · rw [List.forall_mem_cons, List.forall_mem_cons, List.forall_mem_cons,
      List.forall_mem_singleton]
    refine ⟨?_, ?_, ?_, ?_⟩ <;> apply bounded <;> omega

/-- The bytes of a record are one line. -/
theorem le_of_mem_encoding (request : Request) :
    ∀ byte ∈ request.characters.flatMap String.utf8EncodeChar, 0x20 ≤ byte := by
  intro byte member
  obtain ⟨character, written, encoded⟩ := List.mem_flatMap.mp member
  exact le_of_mem_utf8EncodeChar (request.inline_characters character written) byte encoded

/-- The line is ended by one byte, and every byte in front of it belongs to the text of the
object. -/
theorem bytes_eq (request : Request) :
    request.bytes = request.characters.flatMap String.utf8EncodeChar ++ [0x0A] :=
  List.flatMap_append

/-- The head of a stream that starts with a payload is the request, and the rest is left. -/
theorem ofBytes?_append (request : Request) (behind : List UInt8) :
    ofBytes? (request.bytes ++ behind) = some (request, behind) := by
  have inside : ∀ byte ∈ request.characters.flatMap String.utf8EncodeChar,
      (byte != 0x0A) = true := by
    intro byte member
    have high := request.le_of_mem_encoding byte member
    rw [bne_iff_ne]
    rintro rfl
    exact absurd high (by decide)
  have line : (request.bytes ++ behind).takeWhile (· != 0x0A) =
      request.characters.flatMap String.utf8EncodeChar := by
    rw [bytes_eq, List.append_assoc, List.takeWhile_append_of_pos inside]
    exact List.append_nil _
  have left : (request.bytes ++ behind).dropWhile (· != 0x0A) = 0x0A :: behind := by
    rw [bytes_eq, List.append_assoc, List.dropWhile_append_of_pos inside]
    rfl
  have decoded : (request.characters.flatMap String.utf8EncodeChar).toByteArray.utf8Decode? =
      some request.characters.toArray := List.utf8Decode?_utf8Encode
  have read : Json.read request.characters = some request.value := by
    have whole := Json.read_of_spells request.spells_characters (List.forall_mem_nil _)
      (List.forall_mem_nil _)
    rwa [List.nil_append, List.append_nil] at whole
  simp only [ofBytes?, left, line, decoded, Option.bind_eq_bind, Option.bind_some,
    read, ofValue?_value]
  rfl

end Request

/-! ## Every payload -/

/-- A payload is one line that holds a record, and says which request it is made from. The record is
read by the grammar of the interchange form, whoever may have written it. -/
structure Wire (request : Request) : Prop where
  line : ∃ body, request.bytes = body ++ [0x0A] ∧ ∀ byte ∈ body, 0x20 ≤ byte
  record : ∃ text fields, request.payload = text ++ ['\n'] ∧ Json.Spells (.object fields) text ∧
    ∀ value, Json.Spells value text → value = .object fields
  decodes : ∀ behind, Request.ofBytes? (request.bytes ++ behind) = some (request, behind)
  determines : ∀ other : Request, other.bytes = request.bytes → other = request

/-- Whatever texts a request holds, its payload is one line, and nobody can take it for another
request. That the payload determines the request follows from a reader that knows nothing of the
writer. -/
theorem wire_of_request (request : Request) : Wire request := by
  constructor
  case line => exact ⟨_, request.bytes_eq, request.le_of_mem_encoding⟩
  case record =>
    refine ⟨request.characters, _, rfl, request.spells_characters, ?_⟩
    intro value spelled
    exact spelled.unique request.spells_characters
  case decodes => exact request.ofBytes?_append
  case determines =>
    intro other same
    have decoded := request.ofBytes?_append []
    rw [← same, other.ofBytes?_append] at decoded
    exact congrArg Prod.fst (Option.some.inj decoded)

end CompilerFront
