import CompilerFront.Settings.Document

/-!
Contract: no document that is read has a key twice.

Owns:
- `Node.Distinct`, values whose tables have distinct keys at every depth;
- `Sound`, the same for a table under construction, which each operation of the assembly keeps;
- `distinct_parseDocument`, by which every document has it.

Does not own: which keys and values a document may have.
-/

namespace CompilerFront.Settings

/-- No table in a value has a key twice. -/
inductive Node.Distinct : Node → Prop where
  | string (text : String) : Distinct (.string text)
  | integer (number : Int) : Distinct (.integer number)
  | float (number : Decimal.Double) : Distinct (.float number)
  | boolean (truth : Bool) : Distinct (.boolean truth)
  | dateTime : Distinct .dateTime
  | array (elements : List Node) (each : ∀ element ∈ elements, Distinct element) :
    Distinct (.array elements)
  | table (fields : Fields) (keys : (fields.map Prod.fst).Nodup)
    (each : ∀ entry ∈ fields, Distinct entry.2) : Distinct (.table fields)

theorem distinct_array_iff {elements : List Node} :
    (Node.array elements).Distinct ↔ ∀ element ∈ elements, element.Distinct := by
  constructor
  · intro distinct
    cases distinct with
    | array _ each => exact each
  · exact .array elements

theorem distinct_table_iff {fields : Fields} :
    (Node.table fields).Distinct ↔
      (fields.map Prod.fst).Nodup ∧ ∀ entry ∈ fields, entry.2.Distinct := by
  constructor
  · intro distinct
    cases distinct with
    | table _ keys each => exact ⟨keys, each⟩
  · rintro ⟨keys, each⟩
    exact .table fields keys each

/-! ## Tables under construction -/

/-- What a table under construction stands for has no key twice. -/
def Sound (items : List (String × Item)) : Prop := (Node.table (itemsToFields items)).Distinct

theorem itemsToFields_eq_map (items : List (String × Item)) :
    itemsToFields items = items.map fun entry => (entry.1, entry.2.toNode) := by
  induction items with
  | nil => simp [itemsToFields]
  | cons entry rest ih => simp [itemsToFields, ih]

theorem rowsToNodes_eq_map (rows : List (List (String × Item))) :
    rowsToNodes rows = rows.map fun items => .table (itemsToFields items) := by
  induction rows with
  | nil => simp [rowsToNodes]
  | cons items rest ih => simp [rowsToNodes, ih]

section Items

variable {items : List (String × Item)} {key : String} {item : Item}

theorem sound_iff :
    Sound items ↔ (items.map Prod.fst).Nodup ∧ ∀ entry ∈ items, entry.2.toNode.Distinct := by
  rw [Sound, distinct_table_iff, itemsToFields_eq_map, List.map_map, List.forall_mem_map]
  rfl

theorem sound_nil : Sound [] := by simp [sound_iff]

theorem distinct_toNode_table_iff {isImplicit isDotted : Bool} :
    (Item.table isImplicit isDotted items).toNode.Distinct ↔ Sound items := by
  rw [Item.toNode, Sound]

theorem distinct_toNode_rows_iff {rows : List (List (String × Item))} :
    (Item.rows rows).toNode.Distinct ↔ ∀ items ∈ rows, Sound items := by
  rw [Item.toNode, distinct_array_iff, rowsToNodes_eq_map]
  simp [Sound]

theorem lookup?_eq_none_iff : lookup? key items = none ↔ key ∉ items.map Prod.fst := by
  simp only [lookup?, Option.map_eq_none_iff, List.find?_eq_none, decide_eq_true_eq, List.mem_map,
    not_exists, not_and]

/-- An item of a sound table is sound. -/
theorem Sound.found (sound : Sound items) (found : lookup? key items = some item) :
    item.toNode.Distinct := by
  obtain ⟨entry, isFound, rfl⟩ := Option.map_eq_some_iff.mp found
  exact (sound_iff.mp sound).2 entry (List.mem_of_find?_eq_some isFound)

/-- A new key may be put behind all others. -/
theorem Sound.append (sound : Sound items) (new : lookup? key items = none)
    (distinct : item.toNode.Distinct) : Sound (items ++ [(key, item)]) := by
  rw [sound_iff] at sound ⊢
  rw [lookup?_eq_none_iff] at new
  constructor
  · rw [List.map_append, List.map_cons, List.map_nil]
    refine List.nodup_append.mpr ⟨sound.1, by simp, ?_⟩
    intro other member appended isKey same
    rw [same, List.mem_singleton.mp isKey] at member
    exact new member
  · simpa [or_imp, forall_and, distinct] using sound.2

theorem replace_keys : (replace key item items).map Prod.fst = items.map Prod.fst := by
  rw [replace, List.map_map]
  apply List.map_congr_left
  intro entry _
  simp only [Function.comp_apply]
  split
  case isTrue same => exact same.symm
  case isFalse => rfl

/-- An item may be replaced by another one in its place. -/
theorem Sound.replace (sound : Sound items) (distinct : item.toNode.Distinct) :
    Sound (replace key item items) := by
  rw [sound_iff] at sound ⊢
  rw [replace_keys]
  refine ⟨sound.1, ?_⟩
  intro entry member
  obtain ⟨old, isOld, rfl⟩ := List.mem_map.mp member
  split
  · exact distinct
  · exact sound.2 old isOld

theorem Sound.filter (sound : Sound items) (keeps : String × Item → Bool) :
    Sound (items.filter keeps) := by
  rw [sound_iff] at sound ⊢
  refine ⟨(List.filter_sublist.map Prod.fst).nodup sound.1, ?_⟩
  intro entry member
  exact sound.2 entry (List.mem_filter.mp member).1

end Items

/-! ## Operations of the assembly -/

section Change

variable {Extra : Type} {isDotted : Bool} {action : Draft → Option (Draft × Extra)}

/-- A change on the way of a path keeps a table sound when its action does so at the end. -/
theorem Sound.change (Holds : Extra → Prop)
    (acts : ∀ {table next extra}, Sound table.items → action table = some (next, extra) →
      Sound next.items ∧ Holds extra) (path : List String) :
    ∀ {draft result : Draft} {extra : Extra}, Sound draft.items →
      draft.change isDotted path action = some (result, extra) →
        Sound result.items ∧ Holds extra := by
  induction path with
  | nil => exact fun sound changed => acts sound changed
  | cons key rest ih =>
    intro draft result extra sound changed
    rw [Draft.change] at changed
    split at changed
    case h_1 missing =>
      obtain ⟨⟨inner, _⟩, changes, same⟩ := Option.map_eq_some_iff.mp changed
      obtain ⟨rfl, rfl⟩ := Prod.mk.inj same
      obtain ⟨innerSound, holds⟩ := ih sound_nil changes
      exact ⟨sound.append missing (distinct_toNode_table_iff.mpr innerSound), holds⟩
    case h_2 => cases changed
    case h_3 isImplicit innerDotted items found =>
      split at changed
      · cases changed
      · obtain ⟨⟨inner, _⟩, changes, same⟩ := Option.map_eq_some_iff.mp changed
        obtain ⟨rfl, rfl⟩ := Prod.mk.inj same
        have itemsSound := distinct_toNode_table_iff.mp (sound.found found)
        obtain ⟨innerSound, holds⟩ := ih itemsSound changes
        exact ⟨sound.replace (distinct_toNode_table_iff.mpr innerSound), holds⟩
    case h_4 rows found =>
      have rowsSound := distinct_toNode_rows_iff.mp (sound.found found)
      split at changed
      case h_1 => cases changed
      case h_2 last isLast =>
        obtain ⟨⟨inner, _⟩, changes, same⟩ := Option.map_eq_some_iff.mp changed
        obtain ⟨rfl, rfl⟩ := Prod.mk.inj same
        obtain ⟨innerSound, holds⟩ := ih (rowsSound last (List.mem_of_getLast? isLast)) changes
        refine ⟨sound.replace (distinct_toNode_rows_iff.mpr ?_), holds⟩
        intro items member
        rcases List.mem_append.mp member with earlier | final
        · exact rowsSound items (List.dropLast_subset rows earlier)
        · rwa [List.mem_singleton.mp final]

end Change

/-- A field keeps a table sound. -/
theorem Sound.addField {draft result : Draft} {path : List String} {value : Node}
    (sound : Sound draft.items) (distinct : value.Distinct)
    (added : draft.addField path value = some result) : Sound result.items := by
  rw [Draft.addField] at added
  split at added
  · cases added
  case h_2 key isLast =>
    obtain ⟨⟨_, _⟩, changed, rfl⟩ := Option.map_eq_some_iff.mp added
    refine (Sound.change (fun _ => True) ?_ _ sound changed).1
    intro table next _ tableSound acted
    split at acted
    · cases acted
    case isFalse free =>
      obtain ⟨rfl, -⟩ := Prod.mk.inj (Option.some.inj acted)
      have new : lookup? key table.items = none := by
        rw [← Option.not_isSome_iff_eq_none]
        intro taken
        simp [taken] at free
      exact ⟨tableSound.append new (by rwa [Item.toNode]), trivial⟩

/-- Fields are only ever entered through `addField`, which refuses a key that is taken. -/
theorem sound_of_foldlM_addField {fields : List (List String × Node)} {draft result : Draft}
    (sound : Sound draft.items) (each : ∀ field ∈ fields, field.2.Distinct)
    (added : fields.foldlM (fun (draft : Draft) field => draft.addField field.1 field.2) draft =
      some result) : Sound result.items := by
  induction fields generalizing draft with
  | nil =>
    cases added
    exact sound
  | cons field fields ih =>
    obtain ⟨fieldDistinct, restDistinct⟩ := List.forall_mem_cons.mp each
    rw [List.foldlM_cons] at added
    obtain ⟨next, addedFirst, addedRest⟩ := Option.bind_eq_some_iff.mp added
    exact ih (sound.addField fieldDistinct addedFirst) restDistinct addedRest

/-- A table in braces has no key twice. -/
theorem distinct_tableOfFields {fields : List (List String × Node)} {node : Node}
    (each : ∀ field ∈ fields, field.2.Distinct) (closed : tableOfFields fields = some node) :
    node.Distinct := by
  obtain ⟨draft, added, rfl⟩ := Option.map_eq_some_iff.mp closed
  exact sound_of_foldlM_addField sound_nil each added

/-! ## Statements -/

/-- The value of a statement, if it has one, has no key twice. -/
def Statement.Distinct : Statement → Prop
  | .header _ | .rowHeader _ => True
  | .field _ value => value.Distinct

namespace Building

/-- Both tables of a document under construction are sound. -/
structure Sound (building : Building) : Prop where
  root : Settings.Sound building.root.items
  current : Settings.Sound building.current.draft.items

variable {building next : Building} {root : Draft} {path : List String}

theorem Sound.closeTable (sound : building.Sound) (closed : building.closeTable = some root) :
    Settings.Sound root.items := by
  rw [Building.closeTable] at closed
  split at closed
  case h_1 =>
    cases closed
    exact sound.current
  case h_2 key isLast =>
    obtain ⟨⟨_, _⟩, changed, rfl⟩ := Option.map_eq_some_iff.mp closed
    refine (Settings.Sound.change (fun _ => True) ?_ _ sound.root changed).1
    intro parent next _ parentSound acted
    split at acted
    case isTrue =>
      split at acted
      case h_1 rows found =>
        obtain ⟨rfl, -⟩ := Prod.mk.inj (Option.some.inj acted)
        have rowsSound := distinct_toNode_rows_iff.mp (parentSound.found found)
        refine ⟨parentSound.replace (distinct_toNode_rows_iff.mpr ?_), trivial⟩
        exact List.forall_mem_append.mpr ⟨rowsSound, List.forall_mem_singleton.mpr sound.current⟩
      case h_2 => cases acted
      case h_3 missing =>
        obtain ⟨rfl, -⟩ := Prod.mk.inj (Option.some.inj acted)
        have rowSound := distinct_toNode_rows_iff.mpr (List.forall_mem_singleton.mpr sound.current)
        exact ⟨parentSound.append missing rowSound, trivial⟩
    case isFalse =>
      split at acted
      case h_1 => cases acted
      case h_2 missing =>
        obtain ⟨rfl, -⟩ := Prod.mk.inj (Option.some.inj acted)
        exact ⟨parentSound.append missing (distinct_toNode_table_iff.mpr sound.current), trivial⟩

theorem sound_openTable (sound : Settings.Sound root.items)
    (opened : openTable root path = some next) : next.Sound := by
  rw [openTable] at opened
  split at opened
  case h_1 => cases opened
  case h_2 key isLast =>
    obtain ⟨⟨_, items⟩, changed, rfl⟩ := Option.map_eq_some_iff.mp opened
    have both := Settings.Sound.change Settings.Sound ?_ _ sound changed
    · exact ⟨both.1, both.2⟩
    · intro parent next taken parentSound acted
      split at acted
      case h_1 =>
        obtain ⟨rfl, rfl⟩ := Prod.mk.inj (Option.some.inj acted)
        exact ⟨parentSound, sound_nil⟩
      case h_2 implied found =>
        obtain ⟨rfl, rfl⟩ := Prod.mk.inj (Option.some.inj acted)
        exact ⟨parentSound.filter _, distinct_toNode_table_iff.mp (parentSound.found found)⟩
      case h_3 => cases acted

theorem sound_openRow (sound : Settings.Sound root.items)
    (opened : openRow root path = some next) : next.Sound := by
  rw [openRow] at opened
  split at opened
  case h_1 => cases opened
  case h_2 key isLast =>
    obtain ⟨⟨_, _⟩, changed, rfl⟩ := Option.map_eq_some_iff.mp opened
    refine ⟨(Settings.Sound.change (fun _ => True) ?_ _ sound changed).1, sound_nil⟩
    intro parent next _ parentSound acted
    split at acted
    case h_1 missing =>
      obtain ⟨rfl, -⟩ := Prod.mk.inj (Option.some.inj acted)
      have noRows := distinct_toNode_rows_iff.mpr (List.forall_mem_nil Settings.Sound)
      exact ⟨parentSound.append missing noRows, trivial⟩
    case h_2 =>
      obtain ⟨rfl, -⟩ := Prod.mk.inj (Option.some.inj acted)
      exact ⟨parentSound, trivial⟩
    case h_3 => cases acted

/-- A statement keeps a document sound. -/
theorem sound_step {statement : Statement} (sound : building.Sound)
    (distinct : statement.Distinct) (stepped : building.step statement = some next) :
    next.Sound := by
  cases statement with
  | field path value =>
    obtain ⟨draft, added, rfl⟩ := Option.map_eq_some_iff.mp stepped
    exact ⟨sound.root, sound.current.addField distinct added⟩
  | header path =>
    obtain ⟨root, closed, opened⟩ := Option.bind_eq_some_iff.mp stepped
    exact sound_openTable (sound.closeTable closed) opened
  | rowHeader path =>
    obtain ⟨root, closed, opened⟩ := Option.bind_eq_some_iff.mp stepped
    exact sound_openRow (sound.closeTable closed) opened

/-- So does a run of statements. -/
theorem sound_run {statements : List Statement} (sound : building.Sound)
    (each : ∀ statement ∈ statements, statement.Distinct)
    (ran : statements.foldlM step building = some next) : next.Sound := by
  induction statements generalizing building with
  | nil =>
    cases ran
    exact sound
  | cons statement statements ih =>
    obtain ⟨first, rest⟩ := List.forall_mem_cons.mp each
    rw [List.foldlM_cons] at ran
    obtain ⟨middle, stepped, ranRest⟩ := Option.bind_eq_some_iff.mp ran
    exact ih (sound_step sound first stepped) rest ranRest

end Building

theorem distinct_fieldsOfStatements {statements : List Statement} {fields : Fields}
    (each : ∀ statement ∈ statements, statement.Distinct)
    (assembled : fieldsOfStatements statements = some fields) : (Node.table fields).Distinct := by
  obtain ⟨building, ran, closed⟩ := Option.bind_eq_some_iff.mp assembled
  obtain ⟨root, closes, rfl⟩ := Option.map_eq_some_iff.mp closed
  have start : Building.start.Sound := ⟨sound_nil, sound_nil⟩
  exact (Building.sound_run start each ran).closeTable closes

/-! ## Readers -/

theorem distinct_readWord? {word : List Char} {node : Node} (read : readWord? word = some node) :
    node.Distinct := by
  rw [readWord?] at read
  split at read
  · cases read
    exact .boolean true
  · split at read
    · cases read
      exact .boolean false
    · split at read
      · cases read
        exact .dateTime
      · split at read
        · cases read
          exact .integer _
        · obtain ⟨number, -, rfl⟩ := Option.map_eq_some_iff.mp read
          exact .float number

theorem distinct_word? {text rest : List Char} {node : Node}
    (read : word? text = some (node, rest)) : node.Distinct := by
  simp only [word?] at read
  split at read
  · split at read
    · cases read
      exact .dateTime
    · cases read
      exact .dateTime
  · obtain ⟨_, word, same⟩ := Option.map_eq_some_iff.mp read
    obtain ⟨rfl, -⟩ := Prod.mk.inj same
    exact distinct_readWord? word

/-- The readers of values with so many steps give values that have no key twice. -/
structure ReadsDistinct (steps : Nat) : Prop where
  value : ∀ {nesting text node rest}, value? steps nesting text = some (node, rest) → node.Distinct
  elements : ∀ {nesting read text nodes rest}, (∀ node ∈ read, node.Distinct) →
    elements? steps nesting read text = some (nodes, rest) → ∀ node ∈ nodes, node.Distinct
  fields : ∀ {nesting read text fields rest},
    (∀ field ∈ read, Node.Distinct (Prod.snd field)) →
    fields? steps nesting read text = some (fields, rest) → ∀ field ∈ fields, field.2.Distinct

section Readers

variable {steps nesting : Nat} {text rest : List Char}

theorem ReadsDistinct.succ_value {node : Node} (reads : ReadsDistinct steps)
    (read : value? (steps + 1) nesting text = some (node, rest)) : node.Distinct := by
  unfold value? at read
  split at read
  case h_1 =>
    obtain ⟨_, -, same⟩ := Option.map_eq_some_iff.mp read
    cases same
    exact .string _
  case h_2 =>
    obtain ⟨_, -, same⟩ := Option.map_eq_some_iff.mp read
    cases same
    exact .string _
  case h_3 =>
    split at read
    · obtain ⟨⟨elements, _⟩, readsElements, same⟩ := Option.map_eq_some_iff.mp read
      cases same
      exact .array elements (reads.elements (List.forall_mem_nil _) readsElements)
    · cases read
  case h_4 =>
    split at read
    · split at read
      · cases read
        exact .table [] List.nodup_nil (List.forall_mem_nil _)
      · obtain ⟨⟨fields, _⟩, readsFields, closed⟩ := Option.bind_eq_some_iff.mp read
        obtain ⟨table, closes, same⟩ := Option.map_eq_some_iff.mp closed
        cases same
        exact distinct_tableOfFields (reads.fields (List.forall_mem_nil _) readsFields) closes
    · cases read
  case h_5 => exact distinct_word? read

theorem ReadsDistinct.succ_elements {read nodes : List Node} (reads : ReadsDistinct steps)
    (each : ∀ node ∈ read, node.Distinct)
    (readsElements : elements? (steps + 1) nesting read text = some (nodes, rest)) :
    ∀ node ∈ nodes, node.Distinct := by
  unfold elements? at readsElements
  split at readsElements
  case h_1 =>
    cases readsElements
    simpa using each
  case h_2 =>
    obtain ⟨⟨node, after⟩, readsValue, behind⟩ := Option.bind_eq_some_iff.mp readsElements
    have longer := List.forall_mem_cons.mpr ⟨reads.value readsValue, each⟩
    simp only at behind
    split at behind
    · exact reads.elements longer behind
    · cases behind
      simpa only [List.mem_reverse] using longer
    · cases behind
  case h_3 => cases readsElements

theorem ReadsDistinct.succ_fields {read fields : List (List String × Node)}
    (reads : ReadsDistinct steps) (each : ∀ field ∈ read, field.2.Distinct)
    (readsFields : fields? (steps + 1) nesting read text = some (fields, rest)) :
    ∀ field ∈ fields, field.2.Distinct := by
  unfold fields? at readsFields
  obtain ⟨⟨path, atSign⟩, -, behind⟩ := Option.bind_eq_some_iff.mp readsFields
  simp only at behind
  split at behind
  case h_1 sign =>
    obtain ⟨⟨node, after⟩, readsValue, next⟩ := Option.bind_eq_some_iff.mp behind
    have longer : ∀ field ∈ (path, node) :: read, field.2.Distinct :=
      List.forall_mem_cons.mpr ⟨reads.value readsValue, each⟩
    simp only at next
    split at next
    · exact reads.fields longer next
    · cases next
      simpa only [List.mem_reverse] using longer
    · cases next
  case h_2 => cases behind

end Readers

/-- By induction on the steps, over the three readers that call each other. -/
theorem readsDistinct (steps : Nat) : ReadsDistinct steps := by
  induction steps with
  | zero => constructor <;> · intros; contradiction
  | succ steps reads => exact ⟨reads.succ_value, reads.succ_elements, reads.succ_fields⟩

theorem distinct_statement? {steps : Nat} {text rest : List Char} {statement : Statement}
    (read : statement? steps text = some (statement, rest)) : statement.Distinct := by
  unfold statement? at read
  split at read
  case h_1 =>
    obtain ⟨_, -, closed⟩ := Option.bind_eq_some_iff.mp read
    simp only at closed
    split at closed
    · obtain ⟨_, -, same⟩ := Option.map_eq_some_iff.mp closed
      cases same
      trivial
    · cases closed
  case h_2 =>
    obtain ⟨_, -, closed⟩ := Option.bind_eq_some_iff.mp read
    simp only at closed
    split at closed
    · obtain ⟨_, -, same⟩ := Option.map_eq_some_iff.mp closed
      cases same
      trivial
    · cases closed
  case h_3 =>
    obtain ⟨_, -, behind⟩ := Option.bind_eq_some_iff.mp read
    simp only at behind
    split at behind
    · obtain ⟨⟨node, _⟩, readsValue, ended⟩ := Option.bind_eq_some_iff.mp behind
      obtain ⟨_, -, same⟩ := Option.map_eq_some_iff.mp ended
      cases same
      exact (readsDistinct steps).value readsValue
    · cases behind

theorem distinct_statements? {steps : Nat} {read statements : List Statement} {text : List Char}
    (each : ∀ statement ∈ read, statement.Distinct)
    (reads : statements? steps read text = some statements) :
    ∀ statement ∈ statements, statement.Distinct := by
  induction steps generalizing read text with
  | zero => cases reads
  | succ steps ih =>
    unfold statements? at reads
    split at reads
    case h_1 =>
      cases reads
      simpa only [List.mem_reverse] using each
    case h_2 =>
      obtain ⟨next, -, later⟩ := Option.bind_eq_some_iff.mp reads
      exact ih each later
    case h_3 =>
      split at reads
      · exact ih each reads
      · obtain ⟨⟨statement, next⟩, first, later⟩ := Option.bind_eq_some_iff.mp reads
        exact ih (List.forall_mem_cons.mpr ⟨distinct_statement? first, each⟩) later

/-- No document has a key twice. -/
theorem distinct_parseDocument {text : String} {fields : Fields}
    (parsed : parseDocument text = some fields) : (Node.table fields).Distinct := by
  obtain ⟨statements, reads, assembled⟩ := Option.bind_eq_some_iff.mp parsed
  exact distinct_fieldsOfStatements
    (distinct_statements? (List.forall_mem_nil _) reads) assembled

end CompilerFront.Settings
