/-!
# Kinds of relations

The kinds that the catalog knows by one-letter codes, and which parts of a description apply to
each of them. A code that stands for no known kind is kept as it is.
-/

namespace CatalogShell

/-- The kind of a relation. -/
inductive RelationKind where
  | table
  | partitionedTable
  | view
  | materializedView
  | index
  | partitionedIndex
  | sequence
  | foreignTable
  | compositeType
  | toast
  | other (code : Char)
deriving DecidableEq, Repr, Inhabited

namespace RelationKind

/-- The kind that a code stands for. -/
def ofCode (code : Char) : RelationKind :=
  match code with
  | 'r' => .table
  | 'p' => .partitionedTable
  | 'v' => .view
  | 'm' => .materializedView
  | 'i' => .index
  | 'I' => .partitionedIndex
  | 'S' => .sequence
  | 'f' => .foreignTable
  | 'c' => .compositeType
  | 't' => .toast
  | c => .other c

/-- The kind that a text's first character stands for; an empty text has the NUL character's. -/
def ofText (code : String) : RelationKind :=
  match code.toList with
  | [] => .other '\x00'
  | c :: _ => ofCode c

/-- The code of a kind. -/
def code : RelationKind → Char
  | .table => 'r'
  | .partitionedTable => 'p'
  | .view => 'v'
  | .materializedView => 'm'
  | .index => 'i'
  | .partitionedIndex => 'I'
  | .sequence => 'S'
  | .foreignTable => 'f'
  | .compositeType => 'c'
  | .toast => 't'
  | .other c => c

/-- What users call the kind. -/
def label : RelationKind → String
  | .table => "table"
  | .partitionedTable => "partitioned table"
  | .view => "view"
  | .materializedView => "materialized view"
  | .index => "index"
  | .partitionedIndex => "partitioned index"
  | .sequence => "sequence"
  | .foreignTable => "foreign table"
  | .compositeType => "composite type"
  | .toast => "TOAST table"
  | .other _ => "special"

/-- Its columns have modifiers: collation, not-null, default, identity. -/
def hasModifiers : RelationKind → Bool
  | .table | .partitionedTable | .view | .materializedView | .foreignTable | .compositeType => true
  | _ => false

/-- An index, partitioned or not. -/
def isIndex : RelationKind → Bool
  | .index | .partitionedIndex => true
  | _ => false

/-- A view, materialized or not. -/
def isView : RelationKind → Bool
  | .view | .materializedView => true
  | _ => false

/-- It has indexes, constraints, rules and partitions of its own. -/
def isBase : RelationKind → Bool
  | .table | .partitionedTable | .materializedView | .foreignTable => true
  | _ => false

/-- It is listed with its parents and children. -/
def showsInheritance : RelationKind → Bool
  | .table | .materializedView | .foreignTable => true
  | _ => false

/-- The verbose form shows a statistics target for its columns. -/
def hasStatsTarget : RelationKind → Bool
  | .table | .materializedView | .foreignTable => true
  | _ => false

/-- The verbose form shows a description of its columns. -/
def hasDescription : RelationKind → Bool
  | .table | .view | .materializedView | .compositeType | .foreignTable => true
  | _ => false

/-- A code is read back as the kind that it stands for. -/
theorem code_ofCode (c : Char) : (ofCode c).code = c := by
  unfold ofCode
  split <;> rfl

end RelationKind

/-- A relation that a pattern matches. -/
structure ObjectRef where
  oid : UInt32
  schema : String
  name : String
  kind : RelationKind
deriving DecidableEq, Inhabited

/-- Schema and name with a dot between them. -/
def ObjectRef.qualifiedName (o : ObjectRef) : String := o.schema ++ "." ++ o.name

end CatalogShell
