import CatalogShell.Catalog.RelationKind
import CatalogShell.Json.Reader
import CatalogShell.Value.Row

/-!
# Values, rows and objects as JSON

A value is written as plain JSON without a mark of its kind, so that reading it back takes the
first kind that fits: integers come back in the narrowest width that holds them.

Records are objects with one member per field. They can also be read from a list of the fields
in order. An object may hold further members, which nobody looks at, but no field twice.
-/

namespace CatalogShell

open Json (Draft)

/-! ## Writing -/

/-- The JSON form of a value. -/
def Value.toJson : Value → Json
  | .null => .null
  | .boolean b => .bool b
  | .integer n => .int n.toInt
  | .bigInt n => .int n.toInt
  | .oid n => .int n.toNat
  | .float x => .float x
  | .text s => .str s
  | .textArray items => .arr (items.map .str)

/-- The JSON form of a row. -/
def Row.toJson (r : Row) : Json := .obj [("values", .arr (r.values.map Value.toJson))]

/-- The JSON form of a result set. -/
def ResultSet.toJson (t : ResultSet) : Json :=
  .obj [("columns", .arr (t.columns.map .str)), ("rows", .arr (t.rows.map Row.toJson))]

/-- The name of a kind in JSON; unknown kinds have none. -/
def RelationKind.jsonName? : RelationKind → Option String
  | .table => some "Table"
  | .partitionedTable => some "PartitionedTable"
  | .view => some "View"
  | .materializedView => some "MaterializedView"
  | .index => some "Index"
  | .partitionedIndex => some "PartitionedIndex"
  | .sequence => some "Sequence"
  | .foreignTable => some "ForeignTable"
  | .compositeType => some "CompositeType"
  | .toast => some "Toast"
  | .other _ => none

/-- The JSON form of a kind: its name, or the code of an unknown one. -/
def RelationKind.toJson (k : RelationKind) : Json :=
  match k.jsonName? with
  | some name => .str name
  | none => .obj [("Other", .str k.code.toString)]

/-- The JSON form of an object. -/
def ObjectRef.toJson (o : ObjectRef) : Json :=
  .obj [("oid", .int o.oid.toNat), ("schema", .str o.schema), ("name", .str o.name),
    ("kind", o.kind.toJson)]

/-! ## Reading -/

namespace Json.Draft

/-- The text of a string. -/
def text? : Draft → Option String
  | .str s => s
  | _ => none

/-- The items of a list. -/
def items? : Draft → Option (List Draft)
  | .arr items => some items
  | _ => none

/-- The texts of a list of strings. -/
def texts? (d : Draft) : Option (List String) := d.items?.bind (·.mapM text?)

/-- The one member of an object with the given key. -/
def member? (members : List (Option String × Draft)) (key : String) : Option Draft :=
  match members.filter (·.1 == some key) with
  | [(_, d)] => some d
  | _ => none

/-- The fields of a record, from an object or from a list. Keys of members are strings. -/
def fields? (names : List String) : Draft → Option (List Draft)
  | .obj members =>
    if members.all (·.1.isSome) then names.mapM (member? members) else none
  | .arr items => if items.length = names.length then some items else none
  | _ => none

end Json.Draft

/-- An integer in the narrowest width that holds it, or the nearest floating-point number. -/
def Value.ofInt (n : Int) : Value :=
  if -0x80000000 ≤ n ∧ n < 0x80000000 then .integer (Int32.ofInt n)
  else if -0x8000000000000000 ≤ n ∧ n < 0x8000000000000000 then .bigInt (Int64.ofInt n)
  else .float (.ofFloat n.toNat.toUInt64.toFloat)

/-- Reads a value. -/
def Value.ofDraft? : Draft → Option Value
  | .null => some .null
  | .bool b => some (.boolean b)
  | .number (some (.int n)) => some (.ofInt n)
  | .number (some (.float x)) => some (.float x)
  | .number none => none
  | .str s => s.map .text
  | .arr items => (items.mapM Json.Draft.text?).map .textArray
  | .obj _ => none

/-- Reads a row. -/
def Row.ofDraft? (d : Draft) : Option Row := do
  match ← d.fields? ["values"] with
  | [values] => (← values.items?).mapM Value.ofDraft? |>.map Row.mk
  | _ => none

/-- Reads a result set. -/
def ResultSet.ofDraft? (d : Draft) : Option ResultSet := do
  match ← d.fields? ["columns", "rows"] with
  | [columns, rows] =>
    let columns ← columns.texts?
    let rows ← (← rows.items?).mapM Row.ofDraft?
    return ⟨columns, rows⟩
  | _ => none

/-- The kinds that have a name in JSON. -/
def RelationKind.named : List RelationKind :=
  [.table, .partitionedTable, .view, .materializedView, .index, .partitionedIndex, .sequence,
    .foreignTable, .compositeType, .toast]

/-- The kind with a name in JSON. -/
def RelationKind.ofJsonName? (name : String) : Option RelationKind :=
  named.find? (·.jsonName? == some name)

/-- Reads a kind: a name, an object of a name and `null`, or the code of an unknown kind. -/
def RelationKind.ofDraft? : Draft → Option RelationKind
  | .str name => name.bind ofJsonName?
  | .obj [(some "Other", .str (some code))] =>
    match code.toList with
    | [c] => some (.other c)
    | _ => none
  | .obj [(some name, .null)] => ofJsonName? name
  | _ => none

/-- Reads an object identifier. -/
def oidOfDraft? : Draft → Option UInt32
  | .number (some (.int n)) => if 0 ≤ n ∧ n < 0x100000000 then some (UInt32.ofNat n.toNat) else none
  | _ => none

/-- Reads an object. -/
def ObjectRef.ofDraft? (d : Draft) : Option ObjectRef := do
  match ← d.fields? ["oid", "schema", "name", "kind"] with
  | [oid, schema, name, kind] =>
    return ⟨← oidOfDraft? oid, ← schema.text?, ← name.text?, ← RelationKind.ofDraft? kind⟩
  | _ => none

end CatalogShell
