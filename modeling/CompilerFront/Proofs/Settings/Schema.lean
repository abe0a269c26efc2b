import Mathlib
import CompilerFront.Proofs.Settings.Distinct
import CompilerFront.Proofs.Settings.Precedence

/-!
Contract: which documents give settings, and which settings they give.

Owns:
- `Conforms`, documents whose tables and keys are all known and have values of their types;
- `Follows`, settings that have for each key the value in the document, or else the built-in one;
- `Layout`, the laws of a step that takes in one field, and what they say of all fields;
- `decoding_of_parseDocument`, by which the settings of a document are settled key by key.

Does not own: documents in which a name of a table has a value that is no table.
-/

namespace CompilerFront.Settings

/-! ## Specification -/

/-- A table of a document has a key with a value. -/
def At (fields : Fields) (table key : String) (node : Node) : Prop :=
  ∃ entries, (table, .table entries) ∈ fields ∧ (key, node) ∈ entries

/-- The keys that the backend table may have, with their values. -/
inductive BackendEntry : String → Node → Prop where
  | command (text : String) : BackendEntry "command" (.string text)
  | arguments (texts : List String) : BackendEntry "args" (.array (texts.map .string))
  | timeoutSeconds (number : Nat) : BackendEntry "timeout_secs" (.integer number)

inductive RevisionEntry : String → Node → Prop where
  | timeoutMilliseconds (number : Nat) : RevisionEntry "timeout_ms" (.integer number)

/-- The two names of tables stand for tables where a document has them. -/
def Sections (fields : Fields) : Prop :=
  ∀ {name node}, (name, node) ∈ fields → name = "backend" ∨ name = "revision" →
    ∃ entries, node = .table entries

/-- A document has no table and no key but those that are known, with values of their types. A key
that is left out is nothing to complain about. -/
structure Conforms (fields : Fields) : Prop where
  tables : ∀ {name node}, (name, node) ∈ fields → name = "backend" ∨ name = "revision"
  backend : ∀ {key node}, At fields "backend" key node → BackendEntry key node
  revision : ∀ {key node}, At fields "revision" key node → RevisionEntry key node

/-- A value is the one that a document has for a key, or the built-in one if it has none. -/
def Given {Value : Type} (fields : Fields) (table key : String) (written : Value → Node)
    (builtIn value : Value) : Prop :=
  At fields table key (written value) ∨ (∀ node, ¬At fields table key node) ∧ value = builtIn

/-- Settings have for each key the value that is given. -/
structure Follows (fields : Fields) (settings : Settings) : Prop where
  command : Given fields "backend" "command" .string "tact-compiler" settings.backend.command
  arguments : Given fields "backend" "args" (fun texts => .array (texts.map .string)) []
    settings.backend.arguments
  timeoutSeconds : Given fields "backend" "timeout_secs" (fun number : Nat => .integer number) 0
    settings.backend.timeoutSeconds
  timeoutMilliseconds : Given fields "revision" "timeout_ms" (fun number : Nat => .integer number)
    2000 settings.revision.timeoutMilliseconds

/-- Two documents have the same value for a key, or both have none. -/
def SameAt (fields others : Fields) (table key : String) : Prop :=
  ∀ node, At fields table key node ↔ At others table key node

/-- Two documents have the same tables with the same keys and values, in whatever order. -/
structure SameEntries (fields others : Fields) : Prop where
  tables : ∀ name, name ∈ fields.map Prod.fst ↔ name ∈ others.map Prod.fst
  entries : ∀ table key, SameAt fields others table key

/-- Settings are the same wherever two documents agree on the key, whatever else they hold. -/
structure KeyByKey (fields others : Fields) (settings otherSettings : Settings) : Prop where
  command : SameAt fields others "backend" "command" →
    settings.backend.command = otherSettings.backend.command
  arguments : SameAt fields others "backend" "args" →
    settings.backend.arguments = otherSettings.backend.arguments
  timeoutSeconds : SameAt fields others "backend" "timeout_secs" →
    settings.backend.timeoutSeconds = otherSettings.backend.timeoutSeconds
  timeoutMilliseconds : SameAt fields others "revision" "timeout_ms" →
    settings.revision.timeoutMilliseconds = otherSettings.revision.timeoutMilliseconds

/-! ## Distinct keys -/

section Distinct

variable {fields others : Fields} {table key : String} {node other : Node}

theorem node_unique (keys : (fields.map Prod.fst).Nodup) (member : (key, node) ∈ fields)
    (otherMember : (key, other) ∈ fields) : node = other :=
  (Prod.mk.inj (List.inj_on_of_nodup_map keys member otherMember rfl)).2

/-- With distinct keys, at most one value stands at a place. -/
theorem At.unique (distinct : (Node.table fields).Distinct) (isAt : At fields table key node)
    (otherAt : At fields table key other) : node = other := by
  obtain ⟨entries, isTable, member⟩ := isAt
  obtain ⟨otherEntries, otherTable, otherMember⟩ := otherAt
  obtain ⟨keys, each⟩ := distinct_table_iff.mp distinct
  obtain rfl := Node.table.inj (node_unique keys isTable otherTable)
  exact node_unique (distinct_table_iff.mp (each _ isTable)).1 member otherMember

/-- Documents that agree on a key give it one value. -/
theorem Given.unique {Value : Type} {written : Value → Node} {builtIn value otherValue : Value}
    (distinct : (Node.table fields).Distinct) (injective : Function.Injective written)
    (same : SameAt fields others table key)
    (given : Given fields table key written builtIn value)
    (otherGiven : Given others table key written builtIn otherValue) : value = otherValue := by
  rcases given with isAt | ⟨absent, rfl⟩ <;> rcases otherGiven with otherAt | ⟨otherAbsent, rfl⟩
  · exact injective (isAt.unique distinct ((same _).mpr otherAt))
  · exact absurd ((same _).mp isAt) (otherAbsent _)
  · exact absurd ((same _).mpr otherAt) (absent _)
  · rfl

/-- A setting depends on its own place only, so rearranging the document cannot change it. -/
theorem Given.congr {Value : Type} {written : Value → Node} {builtIn value : Value}
    (same : SameAt fields others table key)
    (given : Given fields table key written builtIn value) :
    Given others table key written builtIn value := by
  rcases given with isAt | ⟨absent, rfl⟩
  · exact .inl ((same _).mp isAt)
  · exact .inr ⟨fun node otherAt => absent node ((same node).mpr otherAt), rfl⟩

theorem string_injective : Function.Injective Node.string := fun _ _ => Node.string.inj

theorem strings_injective :
    Function.Injective fun texts : List String => Node.array (texts.map .string) := by
  intro texts others same
  exact List.map_injective_iff.mpr string_injective (Node.array.inj same)

theorem number_injective : Function.Injective fun number : Nat => Node.integer number := by
  intro number other same
  exact Int.ofNat.inj (Node.integer.inj same)

variable {settings otherSettings : Settings}

theorem Follows.keyByKey (distinct : (Node.table fields).Distinct)
    (follows : Follows fields settings) (otherFollows : Follows others otherSettings) :
    KeyByKey fields others settings otherSettings where
  command same := follows.command.unique distinct string_injective same otherFollows.command
  arguments same :=
    follows.arguments.unique distinct strings_injective same otherFollows.arguments
  timeoutSeconds same :=
    follows.timeoutSeconds.unique distinct number_injective same otherFollows.timeoutSeconds
  timeoutMilliseconds same :=
    follows.timeoutMilliseconds.unique distinct number_injective same
      otherFollows.timeoutMilliseconds

/-- The document determines the settings: what it does not say is built in. -/
theorem Follows.unique (distinct : (Node.table fields).Distinct)
    (follows : Follows fields settings) (otherFollows : Follows fields otherSettings) :
    settings = otherSettings := by
  have same := follows.keyByKey distinct otherFollows
  obtain ⟨⟨command, arguments, seconds⟩, ⟨milliseconds⟩⟩ := settings
  obtain ⟨⟨otherCommand, otherArguments, otherSeconds⟩, ⟨otherMilliseconds⟩⟩ := otherSettings
  obtain rfl : command = otherCommand := same.command fun _ => Iff.rfl
  obtain rfl : arguments = otherArguments := same.arguments fun _ => Iff.rfl
  obtain rfl : seconds = otherSeconds := same.timeoutSeconds fun _ => Iff.rfl
  obtain rfl : milliseconds = otherMilliseconds := same.timeoutMilliseconds fun _ => Iff.rfl
  rfl

end Distinct

section Order

variable {fields others : Fields} {settings : Settings}

theorem SameEntries.symm (same : SameEntries fields others) : SameEntries others fields where
  tables name := (same.tables name).symm
  entries table key node := (same.entries table key node).symm

theorem Conforms.congr (same : SameEntries fields others) (conforms : Conforms fields) :
    Conforms others where
  tables member := by
    obtain ⟨⟨_, node⟩, otherMember, rfl⟩ :=
      List.mem_map.mp ((same.tables _).mpr (List.mem_map_of_mem member))
    exact conforms.tables otherMember
  backend isAt := conforms.backend ((same.entries _ _ _).mpr isAt)
  revision isAt := conforms.revision ((same.entries _ _ _).mpr isAt)

theorem Follows.congr (same : SameEntries fields others) (follows : Follows fields settings) :
    Follows others settings where
  command := follows.command.congr (same.entries _ _)
  arguments := follows.arguments.congr (same.entries _ _)
  timeoutSeconds := follows.timeoutSeconds.congr (same.entries _ _)
  timeoutMilliseconds := follows.timeoutMilliseconds.congr (same.entries _ _)

end Order

/-! ## Fields one by one -/

/-- A record with a slot for each key that a table may have. A field is taken in just when its key
is the name of a slot and its value means something, and that is what the slot is set to. -/
structure Layout {Record : Type} (enter : Record → String × Node → Except SchemaFault Record) where
  Slot : Type
  Value : Slot → Type
  name : Slot → String
  get : (slot : Slot) → Record → Value slot
  set : (slot : Slot) → Value slot → Record → Record
  Means : (slot : Slot) → Node → Value slot → Prop
  name_injective : Function.Injective name
  get_set : ∀ slot value record, get slot (set slot value record) = value
  get_set_of_ne : ∀ {slot other}, other ≠ slot → ∀ value record,
    get other (set slot value record) = get other record
  enter_eq_ok_iff : ∀ {before field after}, enter before field = .ok after ↔
    ∃ slot value, name slot = field.1 ∧ Means slot field.2 value ∧ set slot value before = after

namespace Layout

variable {Record : Type} {enter : Record → String × Node → Except SchemaFault Record}
  {fields : Fields} {start final : Record}

theorem foldlM_cons_eq_ok_iff {field : String × Node} :
    (field :: fields).foldlM enter start = .ok final ↔
      ∃ next, enter start field = .ok next ∧ fields.foldlM enter next = .ok final := by
  rw [List.foldlM_cons]
  cases enter start field <;> simp [bind, Except.bind]

/-- A field has a known key, and its value means something. -/
def Admits (layout : Layout enter) (field : String × Node) : Prop :=
  ∃ slot value, layout.name slot = field.1 ∧ layout.Means slot field.2 value

/-- All fields can be taken in just when each of them is admitted. -/
theorem exists_foldlM_eq_ok_iff (layout : Layout enter) :
    (∃ final, fields.foldlM enter start = .ok final) ↔ ∀ field ∈ fields, layout.Admits field := by
  induction fields generalizing start with
  | nil => exact ⟨nofun, fun _ => ⟨start, rfl⟩⟩
  | cons field fields ih =>
    rw [List.forall_mem_cons]
    constructor
    · rintro ⟨final, folded⟩
      obtain ⟨next, entered, rest⟩ := foldlM_cons_eq_ok_iff.mp folded
      obtain ⟨slot, value, named, means, -⟩ := layout.enter_eq_ok_iff.mp entered
      exact ⟨⟨slot, value, named, means⟩, ih.mp ⟨final, rest⟩⟩
    · rintro ⟨⟨slot, value, named, means⟩, rest⟩
      have entered : enter start field = .ok (layout.set slot value start) :=
        layout.enter_eq_ok_iff.mpr ⟨slot, value, named, means, rfl⟩
      obtain ⟨final, folded⟩ := ih.mpr rest
      exact ⟨final, foldlM_cons_eq_ok_iff.mpr ⟨_, entered, folded⟩⟩

/-- A slot has what the field of its key means, or it is as it was before. -/
theorem get_of_foldlM (layout : Layout enter) (folded : fields.foldlM enter start = .ok final)
    (slot : layout.Slot) :
    (∃ node, (layout.name slot, node) ∈ fields ∧
        layout.Means slot node (layout.get slot final)) ∨
      (∀ node, (layout.name slot, node) ∉ fields) ∧
        layout.get slot final = layout.get slot start := by
  induction fields generalizing start with
  | nil =>
    cases folded
    exact .inr ⟨fun _ => List.not_mem_nil, rfl⟩
  | cons field fields ih =>
    obtain ⟨next, entered, rest⟩ := foldlM_cons_eq_ok_iff.mp folded
    obtain ⟨changed, value, named, means, rfl⟩ := layout.enter_eq_ok_iff.mp entered
    rcases ih rest with ⟨node, member, isMeant⟩ | ⟨absent, kept⟩
    · exact .inl ⟨node, List.mem_cons_of_mem _ member, isMeant⟩
    · by_cases same : slot = changed
      · subst same
        refine .inl ⟨field.2, ?_, ?_⟩
        · rw [named]
          exact List.mem_cons_self
        · rwa [kept, layout.get_set]
      · refine .inr ⟨?_, kept.trans (layout.get_set_of_ne same value start)⟩
        intro node member
        rcases List.mem_cons.mp member with first | later
        · apply same
          apply layout.name_injective
          rw [named, ← first]
        · exact absent node later

end Layout

/-! ## Values -/

section Values

variable {node : Node}

theorem expectText_eq_ok_iff {text : String} :
    expectText node = .ok text ↔ node = .string text := by
  cases node <;> simp [expectText]

theorem mapM_expectText_eq_ok_iff {elements : List Node} {texts : List String} :
    elements.mapM expectText = .ok texts ↔ elements = texts.map .string := by
  induction elements generalizing texts with
  | nil => cases texts <;> simp [pure, Except.pure]
  | cons element elements ih =>
    constructor
    · intro read
      cases first : expectText element with
      | error fault => simp [first, bind, Except.bind] at read
      | ok text =>
        cases later : elements.mapM expectText with
        | error fault => simp [first, later, bind, Except.bind] at read
        | ok rest =>
          simp only [List.mapM_cons, first, later, bind, Except.bind, pure, Except.pure,
            Except.ok.injEq] at read
          rw [← read, expectText_eq_ok_iff.mp first, ih.mp later, List.map_cons]
    · intro written
      cases texts with
      | nil => cases written
      | cons text rest =>
        obtain ⟨rfl, others⟩ := List.cons.inj written
        rw [List.mapM_cons, ih.mpr others]
        rfl

theorem expectTexts_eq_ok_iff {texts : List String} :
    expectTexts node = .ok texts ↔ node = .array (texts.map .string) := by
  cases node <;> simp [expectTexts, mapM_expectText_eq_ok_iff]

theorem expectCount_eq_ok_iff {number : Nat} :
    expectCount node = .ok number ↔ node = .integer number := by
  cases node with
  | integer value =>
    simp only [expectCount, Node.integer.injEq]
    split <;> simp <;> omega
  | _ => simp [expectCount]

end Values

/-! ## The two tables -/

inductive BackendSlot where
  | command
  | arguments
  | timeoutSeconds

namespace BackendSlot

@[reducible]
def Value : BackendSlot → Type
  | command => String
  | arguments => List String
  | timeoutSeconds => Nat

def name : BackendSlot → String
  | command => "command"
  | arguments => "args"
  | timeoutSeconds => "timeout_secs"

def get (settings : BackendSettings) : (slot : BackendSlot) → slot.Value
  | command => settings.command
  | arguments => settings.arguments
  | timeoutSeconds => settings.timeoutSeconds

def set (settings : BackendSettings) : (slot : BackendSlot) → slot.Value → BackendSettings
  | command, text => { settings with command := text }
  | arguments, texts => { settings with arguments := texts }
  | timeoutSeconds, number => { settings with timeoutSeconds := number }

def written : (slot : BackendSlot) → slot.Value → Node
  | command, text => .string text
  | arguments, texts => .array (texts.map .string)
  | timeoutSeconds, number => .integer number

end BackendSlot

def backendLayout : Layout BackendSettings.enter where
  Slot := BackendSlot
  Value := BackendSlot.Value
  name := BackendSlot.name
  get slot settings := BackendSlot.get settings slot
  set slot value settings := BackendSlot.set settings slot value
  Means slot node value := node = slot.written value
  name_injective := by
    intro slot other same
    cases slot <;> cases other <;> first | rfl | exact absurd same (by decide)
  get_set := by
    intro slot value settings
    cases slot <;> rfl
  get_set_of_ne := by
    intro slot other different value settings
    cases slot <;> cases other <;> first | rfl | exact absurd rfl different
  enter_eq_ok_iff := by
    rintro before ⟨key, node⟩ after
    constructor
    · intro entered
      simp only [BackendSettings.enter] at entered
      split at entered
      · obtain ⟨text, read, rfl⟩ := Expr.map_eq_ok_iff.mp entered
        exact ⟨.command, text, rfl, expectText_eq_ok_iff.mp read, rfl⟩
      · obtain ⟨texts, read, rfl⟩ := Expr.map_eq_ok_iff.mp entered
        exact ⟨.arguments, texts, rfl, expectTexts_eq_ok_iff.mp read, rfl⟩
      · obtain ⟨number, read, rfl⟩ := Expr.map_eq_ok_iff.mp entered
        exact ⟨.timeoutSeconds, number, rfl, expectCount_eq_ok_iff.mp read, rfl⟩
      · cases entered
    · rintro ⟨slot, value, rfl, rfl, rfl⟩
      cases slot with
      | command => rfl
      | arguments =>
        have read := expectTexts_eq_ok_iff.mpr (Eq.refl (Node.array (value.map .string)))
        exact congrArg (Except.map fun texts => { before with arguments := texts }) read
      | timeoutSeconds =>
        have read := expectCount_eq_ok_iff.mpr (Eq.refl (Node.integer value))
        exact congrArg (Except.map fun number => { before with timeoutSeconds := number }) read

def revisionLayout : Layout RevisionSettings.enter where
  Slot := Unit
  Value _ := Nat
  name _ := "timeout_ms"
  get _ settings := settings.timeoutMilliseconds
  set _ number settings := { settings with timeoutMilliseconds := number }
  Means _ node number := node = .integer number
  name_injective _ _ _ := rfl
  get_set _ _ _ := rfl
  get_set_of_ne different := absurd rfl different
  enter_eq_ok_iff := by
    rintro before ⟨key, node⟩ after
    constructor
    · intro entered
      simp only [RevisionSettings.enter] at entered
      split at entered
      · obtain ⟨number, read, rfl⟩ := Expr.map_eq_ok_iff.mp entered
        exact ⟨(), number, rfl, expectCount_eq_ok_iff.mp read, rfl⟩
      · cases entered
    · rintro ⟨_, number, rfl, rfl, rfl⟩
      have read := expectCount_eq_ok_iff.mpr (Eq.refl (Node.integer number))
      exact congrArg (Except.map fun number => { before with timeoutMilliseconds := number }) read

inductive Table where
  | backend
  | revision

def tablesLayout : Layout Settings.enter where
  Slot := Table
  Value
    | .backend => BackendSettings
    | .revision => RevisionSettings
  name
    | .backend => "backend"
    | .revision => "revision"
  get
    | .backend, settings => settings.backend
    | .revision, settings => settings.revision
  set
    | .backend, backend, settings => { settings with backend := backend }
    | .revision, revision, settings => { settings with revision := revision }
  Means
    | .backend, node, backend => BackendSettings.ofNode node = .ok backend
    | .revision, node, revision => RevisionSettings.ofNode node = .ok revision
  name_injective := by
    intro table other same
    cases table <;> cases other <;> first | rfl | exact absurd same (by decide)
  get_set := by
    intro table value settings
    cases table <;> rfl
  get_set_of_ne := by
    intro table other different value settings
    cases table <;> cases other <;> first | rfl | exact absurd rfl different
  enter_eq_ok_iff := by
    rintro before ⟨name, node⟩ after
    constructor
    · intro entered
      simp only [enter] at entered
      split at entered
      · obtain ⟨backend, read, rfl⟩ := Expr.map_eq_ok_iff.mp entered
        exact ⟨.backend, backend, rfl, read, rfl⟩
      · obtain ⟨revision, read, rfl⟩ := Expr.map_eq_ok_iff.mp entered
        exact ⟨.revision, revision, rfl, read, rfl⟩
      · cases entered
    · rintro ⟨table, value, rfl, read, rfl⟩
      cases table with
      | backend => exact Expr.map_eq_ok_iff.mpr ⟨value, read, rfl⟩
      | revision => exact Expr.map_eq_ok_iff.mpr ⟨value, read, rfl⟩

theorem admits_backend_iff {key : String} {node : Node} :
    backendLayout.Admits (key, node) ↔ BackendEntry key node := by
  constructor
  · rintro ⟨slot, value, rfl, rfl⟩
    cases slot with
    | command => exact .command value
    | arguments => exact .arguments value
    | timeoutSeconds => exact .timeoutSeconds value
  · intro entry
    cases entry with
    | command text => exact ⟨.command, text, rfl, rfl⟩
    | arguments texts => exact ⟨.arguments, texts, rfl, rfl⟩
    | timeoutSeconds number => exact ⟨.timeoutSeconds, number, rfl, rfl⟩

theorem admits_revision_iff {key : String} {node : Node} :
    revisionLayout.Admits (key, node) ↔ RevisionEntry key node := by
  constructor
  · rintro ⟨_, number, rfl, rfl⟩
    exact .timeoutMilliseconds number
  · intro entry
    cases entry with
    | timeoutMilliseconds number => exact ⟨(), number, rfl, rfl⟩

theorem admits_tables_iff {name : String} {node : Node} :
    tablesLayout.Admits (name, node) ↔
      (name = "backend" ∧ ∃ backend, BackendSettings.ofNode node = .ok backend) ∨
        (name = "revision" ∧ ∃ revision, RevisionSettings.ofNode node = .ok revision) := by
  constructor
  · rintro ⟨table, value, rfl, read⟩
    cases table with
    | backend => exact .inl ⟨rfl, value, read⟩
    | revision => exact .inr ⟨rfl, value, read⟩
  · rintro (⟨rfl, backend, read⟩ | ⟨rfl, revision, read⟩)
    · exact ⟨.backend, backend, rfl, read⟩
    · exact ⟨.revision, revision, rfl, read⟩

section Tables

variable {fields : Fields} {settings : Settings}

/-- A document is decoded just when it conforms. -/
theorem exists_ofFields_eq_ok_iff (sections : Sections fields) :
    (∃ settings, ofFields fields = .ok settings) ↔ Conforms fields := by
  rw [ofFields, tablesLayout.exists_foldlM_eq_ok_iff]
  constructor
  · intro each
    refine ⟨?_, ?_, ?_⟩
    · intro name node member
      exact (admits_tables_iff.mp (each _ member)).imp And.left And.left
    · rintro key node ⟨entries, isTable, member⟩
      rcases admits_tables_iff.mp (each _ isTable) with ⟨-, read⟩ | ⟨isRevision, -⟩
      · exact admits_backend_iff.mp (backendLayout.exists_foldlM_eq_ok_iff.mp read _ member)
      · exact absurd isRevision (by decide)
    · rintro key node ⟨entries, isTable, member⟩
      rcases admits_tables_iff.mp (each _ isTable) with ⟨isBackend, -⟩ | ⟨-, read⟩
      · exact absurd isBackend (by decide)
      · exact admits_revision_iff.mp (revisionLayout.exists_foldlM_eq_ok_iff.mp read _ member)
  · rintro conforms ⟨name, node⟩ member
    have known := conforms.tables member
    obtain ⟨entries, rfl⟩ := sections member known
    rw [admits_tables_iff]
    rcases known with rfl | rfl
    · refine .inl ⟨rfl, backendLayout.exists_foldlM_eq_ok_iff.mpr ?_⟩
      rintro ⟨key, node⟩ isEntry
      exact admits_backend_iff.mpr (conforms.backend ⟨entries, member, isEntry⟩)
    · refine .inr ⟨rfl, revisionLayout.exists_foldlM_eq_ok_iff.mpr ?_⟩
      rintro ⟨key, node⟩ isEntry
      exact admits_revision_iff.mpr (conforms.revision ⟨entries, member, isEntry⟩)

/-- A slot of a record that is read from a table, or has stayed as it is built in, is given. -/
theorem Layout.given {Record : Type} {enter : Record → String × Node → Except SchemaFault Record}
    (layout : Layout enter) (distinct : (Node.table fields).Distinct) {table : String}
    {builtIn record : Record}
    (read : (∃ entries, (table, .table entries) ∈ fields ∧
        entries.foldlM enter builtIn = .ok record) ∨
      (∀ node, (table, node) ∉ fields) ∧ record = builtIn)
    (slot : layout.Slot) {written : layout.Value slot → Node}
    (means : ∀ {node value}, layout.Means slot node value → node = written value) :
    Given fields table (layout.name slot) written (layout.get slot builtIn)
      (layout.get slot record) := by
  rcases read with ⟨entries, isTable, folded⟩ | ⟨absent, rfl⟩
  · rcases layout.get_of_foldlM folded slot with ⟨node, member, isMeant⟩ | ⟨absent, kept⟩
    · rw [means isMeant] at member
      exact .inl ⟨entries, isTable, member⟩
    · refine .inr ⟨?_, kept⟩
      rintro node ⟨others, otherTable, member⟩
      have keys := (distinct_table_iff.mp distinct).1
      obtain rfl := Node.table.inj (node_unique keys isTable otherTable)
      exact absent node member
  · refine .inr ⟨?_, rfl⟩
    rintro node ⟨entries, isTable, -⟩
    exact absent _ isTable

/-- What is read where the name of a table stands is read from its entries. -/
theorem Sections.exists_entries (sections : Sections fields) {name : String} {Reads : Node → Prop}
    (known : name = "backend" ∨ name = "revision")
    (read : ∃ node, (name, node) ∈ fields ∧ Reads node) :
    ∃ entries, (name, .table entries) ∈ fields ∧ Reads (.table entries) := by
  obtain ⟨node, member, reads⟩ := read
  obtain ⟨entries, rfl⟩ := sections member known
  exact ⟨entries, member, reads⟩

/-- Settings that are decoded follow the document. -/
theorem follows_of_ofFields (distinct : (Node.table fields).Distinct) (sections : Sections fields)
    (decoded : ofFields fields = .ok settings) : Follows fields settings := by
  have backend := (tablesLayout.get_of_foldlM decoded .backend).imp_left
    (sections.exists_entries (.inl rfl))
  have revision := (tablesLayout.get_of_foldlM decoded .revision).imp_left
    (sections.exists_entries (.inr rfl))
  exact {
    command := backendLayout.given distinct backend BackendSlot.command id
    arguments := backendLayout.given distinct backend BackendSlot.arguments id
    timeoutSeconds := backendLayout.given distinct backend BackendSlot.timeoutSeconds id
    timeoutMilliseconds := revisionLayout.given distinct revision () id }

/-- Settings are decoded from a document just when it conforms and they follow it. -/
theorem ofFields_eq_ok_iff (distinct : (Node.table fields).Distinct) (sections : Sections fields) :
    ofFields fields = .ok settings ↔ Conforms fields ∧ Follows fields settings := by
  constructor
  · intro decoded
    exact ⟨(exists_ofFields_eq_ok_iff sections).mp ⟨settings, decoded⟩,
      follows_of_ofFields distinct sections decoded⟩
  · rintro ⟨conforms, follows⟩
    obtain ⟨other, decoded⟩ := (exists_ofFields_eq_ok_iff sections).mpr conforms
    obtain rfl := follows.unique distinct (follows_of_ofFields distinct sections decoded)
    exact decoded

end Tables

/-! ## Documents -/

section Documents

variable {text : String} {fields : Fields} {settings : Settings}

theorem ofText_eq_ok_iff (parsed : parseDocument text = some fields) :
    ofText text = .ok settings ↔ ofFields fields = .ok settings := by
  simp only [ofText, parsed]
  split
  case h_1 found decoded => rw [decoded, Except.ok.injEq, Except.ok.injEq]
  case h_2 fault failed => simp only [failed, reduceCtorEq]

/-- Decoding, in terms of the document alone: it conforms, and the settings follow it. -/
theorem ofText_eq_ok_iff_follows (parsed : parseDocument text = some fields)
    (sections : Sections fields) :
    ofText text = .ok settings ↔ Conforms fields ∧ Follows fields settings := by
  rw [ofText_eq_ok_iff parsed, ofFields_eq_ok_iff (distinct_parseDocument parsed) sections]

/-- A document that gives no settings fails the loading, before any variable is looked at. -/
theorem load_of_not_ok {read : ReadText} {environment : Environment} {root : Option String}
    {source : Source} (parsed : parseDocument text = some fields)
    (refused : ¬∃ settings, ofFields fields = .ok settings)
    (selected : (readSource read (givenValue? environment pathVariable) root).result =
      .ok (text, source)) :
    ∃ message, (load read environment root).result = .error (.document (.schema message)) := by
  cases decoded : ofFields fields with
  | ok settings => exact absurd ⟨settings, decoded⟩ refused
  | error fault =>
    refine ⟨fault.message, ?_⟩
    rw [result_load, selected]
    simp only [Except.bind, effective, ofText, parsed, decoded, Except.map]

end Documents

/-- What a document in which the names of tables stand for tables gives: settings just when it
conforms, and then one value for each key, whatever else there is and in whatever order; otherwise a
fault of the document, whatever the variables. -/
structure Decoding (text : String) (fields : Fields) : Prop where
  accepted : (∃ settings, ofText text = .ok settings) ↔ Conforms fields
  settled : ∀ {settings}, ofText text = .ok settings ↔ Conforms fields ∧ Follows fields settings
  keyByKey : ∀ {otherText others settings otherSettings},
    parseDocument otherText = some others → Sections others →
    ofText text = .ok settings → ofText otherText = .ok otherSettings →
      KeyByKey fields others settings otherSettings
  reordered : ∀ {otherText others settings},
    parseDocument otherText = some others → Sections others → SameEntries fields others →
      (ofText otherText = .ok settings ↔ ofText text = .ok settings)
  refused : ¬Conforms fields → ∀ {read environment root source},
    (readSource read (givenValue? environment pathVariable) root).result = .ok (text, source) →
      ∃ message, (load read environment root).result = .error (.document (.schema message))

/-- What a document gives is settled key by key. It is accepted if it conforms, a key that it leaves
out has the built-in value, and the order of keys and sections makes no difference. -/
theorem decoding_of_parseDocument {text : String} {fields : Fields}
    (parsed : parseDocument text = some fields) (sections : Sections fields) :
    Decoding text fields := by
  constructor
  case accepted => simp only [ofText_eq_ok_iff parsed, exists_ofFields_eq_ok_iff sections]
  case settled => exact ofText_eq_ok_iff_follows parsed sections
  case keyByKey =>
    intro otherText others settings otherSettings otherParsed otherSections decoded otherDecoded
    have follows := ((ofText_eq_ok_iff_follows parsed sections).mp decoded).2
    have otherFollows := ((ofText_eq_ok_iff_follows otherParsed otherSections).mp otherDecoded).2
    exact follows.keyByKey (distinct_parseDocument parsed) otherFollows
  case reordered =>
    intro otherText others settings otherParsed otherSections same
    rw [ofText_eq_ok_iff_follows parsed sections,
      ofText_eq_ok_iff_follows otherParsed otherSections]
    constructor
    · rintro ⟨conforms, follows⟩
      exact ⟨conforms.congr same.symm, follows.congr same.symm⟩
    · rintro ⟨conforms, follows⟩
      exact ⟨conforms.congr same, follows.congr same⟩
  case refused =>
    intro nonconforming read environment root source selected
    refine load_of_not_ok parsed ?_ selected
    rwa [exists_ofFields_eq_ok_iff sections]

/-- A document with one key, and with a table that is empty. -/
def partialDocument : String := "backend.args=[\"x\"]\n[revision]"

def partialFields : Fields :=
  [("backend", .table [("args", .array [.string "x"])]), ("revision", .table [])]

/-- The one key is taken from the document, and all others are built in. -/
theorem decoding_of_parseDocument_partial :
    parseDocument partialDocument = some partialFields ∧ Sections partialFields ∧
      Decoding partialDocument partialFields ∧
        ofText partialDocument = .ok { backend := { arguments := ["x"] } } ∧
          Follows partialFields { backend := { arguments := ["x"] } } := by
  have parsed : parseDocument partialDocument = some partialFields := by cbv
  have sections : Sections partialFields := by
    intro name node member _
    simp only [partialFields, List.mem_cons, Prod.mk.injEq, List.not_mem_nil, or_false] at member
    rcases member with ⟨-, rfl⟩ | ⟨-, rfl⟩
    · exact ⟨_, rfl⟩
    · exact ⟨_, rfl⟩
  have decoded : ofText partialDocument = .ok { backend := { arguments := ["x"] } } := by cbv
  have decoding := decoding_of_parseDocument parsed sections
  exact ⟨parsed, sections, decoding, decoded, (decoding.settled.mp decoded).2⟩

end CompilerFront.Settings
