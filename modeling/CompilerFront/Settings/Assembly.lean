import CompilerFront.Settings.Node

/-!
Contract: putting the statements of a settings document together to one table.

Owns:
- `Statement`, a table header, a header of a row of tables, or a field;
- which statements may follow which: no key and no table is defined twice;
- the order of fields: a table that only had its subtables named moves to the place of its header.
-/

namespace CompilerFront.Settings

/-- One statement of a document; paths are not empty. -/
inductive Statement where
  | header (path : List String)
  | rowHeader (path : List String)
  | field (path : List String) (value : Node)
deriving Repr

/-- What a key of a table under construction stands for.

A table is implicit when only fields or tables below it were named, and dotted when a field with a
path made it. -/
inductive Item where
  | value (node : Node)
  | table (isImplicit isDotted : Bool) (items : List (String × Item))
  | rows (rows : List (List (String × Item)))

/-- A table under construction. -/
structure Draft where
  isImplicit : Bool
  isDotted : Bool
  items : List (String × Item)

def Draft.defined : Draft := ⟨false, false, []⟩

def lookup? (key : String) (items : List (String × Item)) : Option Item :=
  (items.find? fun entry => entry.1 = key).map Prod.snd

def replace (key : String) (item : Item) (items : List (String × Item)) : List (String × Item) :=
  items.map fun entry => if entry.1 = key then (key, item) else entry

namespace Draft

def append (draft : Draft) (key : String) (item : Item) : Draft :=
  { draft with items := draft.items ++ [(key, item)] }

def toItem (draft : Draft) : Item := .table draft.isImplicit draft.isDotted draft.items

/-- Changes the table that a path leads to, and makes those on the way that are missing.

A path leads through the last of a row of tables. A dotted path leads through no table that has a
header or braces of its own. -/
def change {Extra : Type} (draft : Draft) (isDotted : Bool) (path : List String)
    (action : Draft → Option (Draft × Extra)) : Option (Draft × Extra) :=
  match path with
  | [] => action draft
  | key :: rest =>
    match lookup? key draft.items with
    | none =>
      (change ⟨true, isDotted, []⟩ isDotted rest action).map fun (inner, extra) =>
        (draft.append key inner.toItem, extra)
    | some (.value _) => none
    | some (.table isImplicit innerDotted items) =>
      if isDotted && !isImplicit then none
      else
        (change ⟨isImplicit, innerDotted, items⟩ isDotted rest action).map fun (inner, extra) =>
          ({ draft with items := replace key inner.toItem draft.items }, extra)
    | some (.rows rows) =>
      match rows.getLast? with
      | none => none
      | some last =>
        (change { defined with items := last } isDotted rest action).map fun (inner, extra) =>
          ({ draft with items := replace key (.rows (rows.dropLast ++ [inner.items])) draft.items },
            extra)

/-- Adds a field; its key must be new, and a field without a path must not be in a dotted table. -/
def addField (draft : Draft) (path : List String) (value : Node) : Option Draft :=
  match path.getLast? with
  | none => none
  | some key =>
    let way := path.dropLast
    (change draft (!way.isEmpty) way fun table =>
      if table.isDotted == way.isEmpty || (lookup? key table.items).isSome then none
      else some (table.append key (.value value), ())).map Prod.fst

end Draft

/-! ## Whole documents -/

/-- The table whose fields are being read, apart from the document it will be put into. -/
structure OpenTable where
  path : List String
  isRow : Bool
  draft : Draft

structure Building where
  root : Draft
  current : OpenTable

namespace Building

def closeTable (building : Building) : Option Draft :=
  let current := building.current
  match current.path.getLast? with
  | none => some current.draft
  | some key =>
    (building.root.change false current.path.dropLast fun parent =>
      if current.isRow then
        match lookup? key parent.items with
        | some (.rows rows) =>
          some ({ parent with
            items := replace key (.rows (rows ++ [current.draft.items])) parent.items }, ())
        | some _ => none
        | none => some (parent.append key (.rows [current.draft.items]), ())
      else
        match lookup? key parent.items with
        | some _ => none
        | none => some (parent.append key current.draft.toItem, ())).map Prod.fst

/-- Opens a table; one that was only implied so far is taken out of its place with its content. -/
def openTable (root : Draft) (path : List String) : Option Building :=
  match path.getLast? with
  | none => none
  | some key =>
    (root.change false path.dropLast fun parent =>
      match lookup? key parent.items with
      | none => some (parent, [])
      | some (.table true false items) =>
        some ({ parent with items := parent.items.filter fun entry => entry.1 ≠ key }, items)
      | some _ => none).map fun (root, items) =>
        ⟨root, ⟨path, false, { Draft.defined with items := items }⟩⟩

def openRow (root : Draft) (path : List String) : Option Building :=
  match path.getLast? with
  | none => none
  | some key =>
    (root.change false path.dropLast fun parent =>
      match lookup? key parent.items with
      | none => some (parent.append key (.rows []), ())
      | some (.rows _) => some (parent, ())
      | some _ => none).map fun (root, _) => ⟨root, ⟨path, true, .defined⟩⟩

def step (building : Building) : Statement → Option Building
  | .field path value =>
    (building.current.draft.addField path value).map fun draft =>
      { building with current := { building.current with draft := draft } }
  | .header path => building.closeTable.bind fun root => openTable root path
  | .rowHeader path => building.closeTable.bind fun root => openRow root path

def start : Building := ⟨.defined, ⟨[], false, .defined⟩⟩

end Building

/-! ## Finished tables -/

mutual

def Item.toNode : Item → Node
  | .value node => node
  | .table _ _ items => .table (itemsToFields items)
  | .rows rows => .array (rowsToNodes rows)

def itemsToFields : List (String × Item) → Fields
  | [] => []
  | (key, item) :: rest => (key, item.toNode) :: itemsToFields rest

def rowsToNodes : List (List (String × Item)) → List Node
  | [] => []
  | items :: rest => .table (itemsToFields items) :: rowsToNodes rest

end

def tableOfFields (fields : List (List String × Node)) : Option Node :=
  (fields.foldlM (fun (draft : Draft) field => draft.addField field.1 field.2) Draft.defined).map
    fun draft => .table (itemsToFields draft.items)

def fieldsOfStatements (statements : List Statement) : Option Fields :=
  (statements.foldlM Building.step Building.start).bind fun building =>
    building.closeTable.map fun root => itemsToFields root.items

end CompilerFront.Settings
