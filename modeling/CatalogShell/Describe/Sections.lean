import CatalogShell.Describe.SectionQuery
import CatalogShell.Describe.TableInfo
import CatalogShell.Inquiry
import CatalogShell.Report.Footer
import CatalogShell.Text.Search

/-!
# Sections of a footer

Each section is one query and a way to read its rows. `footer` asks for the sections that apply
to a relation, one after the other. A section that fails makes the whole description fail, but
for the definition of a view, which is left out instead unless its query was given up.
-/

namespace CatalogShell

namespace Section

/-- A lookup that is only made where it applies. -/
def onlyIf {α : Type} (applies : Bool) (otherwise : α) (x : Lookup α) : Lookup α :=
  if applies then x else pure otherwise

/-- A text in double quotes. -/
def quoted (s : String) : String := "\"" ++ s ++ "\""

/-- What a query's rows are read as. -/
def rowsOf {α : Type} (q : Query) (read : Row → Except Failure α) : Lookup (List α) := do
  let answer ← Lookup.ask q
  (answer.rows.mapM read : Except Failure (List α))

/-- The first column of the first row; it is absent if it is NULL or if there is no row. -/
def firstText (q : Query) : Lookup (Option String) := do
  match ← Lookup.askFirst? q with
  | some row => row.text? q.label 0
  | none => return none

/-- The first column of every row, without NULL. -/
def texts (q : Query) : Lookup (List String) := do
  let column ← rowsOf q fun row => row.text? q.label 0
  return column.filterMap id

/-! ## View definitions -/

/-- The definition of a view, or nothing if the query for it fails. It only fails as a whole if
the query is given up. -/
def viewDefinition (oid : Oid) : Lookup (Option String) :=
  tryCatch (firstText (SectionQuery.viewDefinition oid)) fun e =>
    if e.isAbandoned then throw e else pure none

/-! ## Indexes -/

/-- The facts about an index that its own description sums up. -/
structure IndexFacts where
  unique : Bool
  primary : Bool
  clustered : Bool
  valid : Bool
  deferrable : Bool
  deferred : Bool
  method : String
  table : String
  predicate : Option String

namespace IndexFacts

/-- Reads the facts from a row with the given label. -/
def ofRow (label : String) (row : Row) : Except Failure IndexFacts := do
  let unique ← row.bool label 0
  let primary ← row.bool label 1
  let clustered ← row.bool label 2
  let valid ← row.bool label 3
  let deferrable ← row.bool? label 4
  let deferred ← row.bool? label 5
  let method ← row.text label 6
  let table ← row.text label 7
  let predicate ← row.text? label 8
  return {
    unique, primary, clustered, valid, deferrable := deferrable.getD false
    deferred := deferred.getD false, method, table, predicate }

/-- The facts in one line. -/
def summary (schema : String) (x : IndexFacts) : String :=
  ", ".intercalate (
    (if x.primary then ["primary key"] else if x.unique then ["unique"] else []) ++
    [x.method, "for table " ++ quoted (schema ++ "." ++ x.table)] ++
    (x.predicate.toList.map fun s => "predicate (" ++ s ++ ")") ++
    (if x.clustered then ["clustered"] else []) ++
    (if x.valid then [] else ["invalid"]) ++
    (if x.deferrable then ["deferrable"] else []) ++
    if x.deferred then ["initially deferred"] else [])

end IndexFacts

/-- The summary of an index. -/
def indexSummary (oid : Oid) (schema : String) : Lookup (Option String) := do
  let q := SectionQuery.indexFooter oid
  let row ← Lookup.askFirst q
  let facts ← IndexFacts.ofRow q.label row
  return some (facts.summary schema)

/-- An index in the list of a relation's indexes. -/
structure IndexEntry where
  name : String
  primary : Bool
  unique : Bool
  clustered : Bool
  valid : Bool
  definition : String
  constraint : Option String
  constraintType : Option String
  deferrable : Bool
  deferred : Bool

namespace IndexEntry

/-- The index belongs to an exclusion constraint. -/
def isExclusion (constraintType : Option String) : Bool := constraintType == some "x"

/-- Reads an entry from a row with the given label. Whether an exclusion constraint is
deferrable is not asked for. -/
def ofRow (label : String) (row : Row) : Except Failure IndexEntry := do
  let name ← row.text label 0
  let primary ← row.bool label 1
  let unique ← row.bool label 2
  let clustered ← row.bool label 3
  let valid ← row.bool label 4
  let definition ← row.text? label 5
  let constraint ← row.text? label 6
  let constraintType ← row.text? label 7
  let flag (column : Nat) : Except Failure Bool :=
    if isExclusion constraintType then .ok false
    else (row.bool? label column).map (·.getD false)
  let deferrable ← flag 8
  let deferred ← flag 9
  return {
    name, primary, unique, clustered, valid, definition := definition.getD "", constraint
    constraintType, deferrable, deferred }

/-- What kind of key the index is. -/
def keyText (x : IndexEntry) : String :=
  if x.primary then " PRIMARY KEY,"
  else if x.unique then
    if x.constraintType = some "u" then " UNIQUE CONSTRAINT," else " UNIQUE,"
  else ""

/-- What follows the first ` USING ` of the definition. -/
def methodText (x : IndexEntry) : String :=
  match Text.after? " USING ".toList x.definition.toList with
  | some tail => " " ++ String.ofList tail
  | none => ""

/-- The line that shows the index. -/
def line (x : IndexEntry) : String :=
  quoted x.name ++
    (if isExclusion x.constraintType then " " ++ x.constraint.getD ""
      else x.keyText ++ x.methodText ++ (if x.deferrable then " DEFERRABLE" else "") ++
        if x.deferred then " INITIALLY DEFERRED" else "") ++
    (if x.clustered then " CLUSTER" else "") ++
    if x.valid then "" else " INVALID"

end IndexEntry

/-- The indexes of a relation. -/
def indexes (oid : Oid) : Lookup (List String) := do
  let q := SectionQuery.indexes oid
  let entries ← rowsOf q (IndexEntry.ofRow q.label)
  return entries.map IndexEntry.line

/-! ## Constraints -/

/-- A constraint's name and definition. -/
def namedDefinition (label : String) (row : Row) : Except Failure String := do
  let name ← row.text label 0
  let definition ← row.text? label 1
  return quoted name ++ " " ++ definition.getD ""

/-- Constraints by name and definition. -/
def namedDefinitions (q : Query) : Lookup (List String) := rowsOf q (namedDefinition q.label)

/-- A foreign key of another table. -/
def reference (label : String) (row : Row) : Except Failure String := do
  let table ← row.text label 0
  let name ← row.text label 1
  let definition ← row.text? label 2
  return "TABLE " ++ quoted table ++ " CONSTRAINT " ++ quoted name ++ " " ++ definition.getD ""

/-- The foreign keys that refer to a relation. -/
def referencedBy (oid : Oid) : Lookup (List String) :=
  let q := SectionQuery.referencedBy oid
  rowsOf q (reference q.label)

/-! ## Rules and triggers -/

/-- What follows the first ` TRIGGER ` of a trigger's definition, or all of it. -/
def triggerBody (definition : String) : String :=
  match Text.after? " TRIGGER ".toList definition.toList with
  | some body => String.ofList body
  | none => definition

/-- A definition and the code of its firing mode. -/
def firingRow (label : String) (row : Row) : Except Failure (String × String) := do
  let definition ← row.text? label 1
  let code ← row.text? label 2
  return (definition.getD "", code.getD "")

/-- Definitions filed by firing mode; those with an unknown code are left out. -/
def fileAll (shape : String → String) (rows : List (String × String)) : FiringGroups :=
  rows.foldl (fun groups (definition, code) =>
    match FiringMode.ofCode? code with
    | some mode => groups.file mode (shape definition)
    | none => groups) {}

/-- The definitions that a query gives, filed by firing mode. -/
def firingGroups (q : Query) (shape : String → String) : Lookup FiringGroups := do
  let rows ← rowsOf q (firingRow q.label)
  return fileAll shape rows

/-! ## Partitions and inheritance -/

/-- A partitioned table with the bounds of the partition, and the partition's constraint. -/
def partitionRow (label : String) (row : Row) : Except Failure (String × String) := do
  let parent ← row.text? label 0
  let constraint ← row.text? label 1
  return (parent.getD "", constraint.getD "")

/-- The tables that a relation is a partition of. -/
def partitionOf (oid : Oid) : Lookup (List (String × String)) :=
  let q := SectionQuery.partitionOf oid
  rowsOf q (partitionRow q.label)

/-- How many of something there are, and how to list them. -/
def countLine (what : String) (n : Nat) : String :=
  "Number of " ++ what ++ ": " ++ n.repr ++ " (Use \\d+ to list them.)"

/-- The server of a foreign table and its options. -/
def serverRow (label : String) (row : Row) : Except Failure (String × Option String) := do
  let server ← row.text label 0
  let options ← row.text? label 1
  return (server, (options.filter (· ≠ "")).map fun s => "(" ++ s ++ ")")

/-- The server of a foreign table and its options, if the table has a server. -/
def foreignServer (oid : Oid) : Lookup (Option (String × Option String)) := do
  let q := SectionQuery.foreignTable oid
  match ← Lookup.askFirst? q with
  | some row => return some (← serverRow q.label row)
  | none => return none

/-! ## The whole footer -/

/-- The footer of a relation's description. -/
def footer (info : TableInfo) (schema : String) (verbose : Bool) : Lookup Footer := do
  let oid := info.oid
  let kind := info.kind
  let base := kind.isBase
  let family := kind.showsInheritance && !info.isPartition
  let viewDefinition ← onlyIf (kind.isView && verbose) none (viewDefinition oid)
  let indexSummary ← onlyIf kind.isIndex none (indexSummary oid schema)
  let ownedBy ← onlyIf (kind = .sequence) none (firstText (SectionQuery.sequenceOwner oid))
  let indexes ← onlyIf (base && info.hasIndex) [] (indexes oid)
  let checkConstraints ← onlyIf (base && info.checks > 0) []
    (namedDefinitions (SectionQuery.checkConstraints oid))
  let foreignKeys ← onlyIf (base && info.hasTriggers) []
    (namedDefinitions (SectionQuery.foreignKeys oid))
  let referencedBy ← onlyIf (base && info.hasTriggers) [] (referencedBy oid)
  let rules ← onlyIf (base && info.hasRules && kind ≠ .materializedView) {}
    (firingGroups (SectionQuery.rules oid) id)
  let partitionOf ← onlyIf (base && info.isPartition) [] (partitionOf oid)
  let partitionKey ← onlyIf (kind = .partitionedTable) none
    (firstText (SectionQuery.partitionKey oid))
  let partitions ← onlyIf (kind = .partitionedTable) [] (texts (SectionQuery.partitions oid))
  let triggers ← onlyIf info.hasTriggers {}
    (firingGroups (SectionQuery.triggers oid) triggerBody)
  let server ← onlyIf (kind = .foreignTable) none (foreignServer oid)
  let inherits ← onlyIf family [] (texts (SectionQuery.inherits oid))
  let children ← onlyIf family [] (texts (SectionQuery.childTables oid))
  return {
    indexSummary, ownedBy, viewDefinition, indexes, checkConstraints, foreignKeys, referencedBy
    rules, triggers, partitionKey, inherits
    partitionOf := partitionOf.map Prod.fst
    partitionConstraints := partitionOf.map Prod.snd
    partitions := if verbose then partitions else []
    partitionsSummary :=
      if kind = .partitionedTable ∧ !verbose then some (countLine "partitions" partitions.length)
      else none
    childTables := if verbose then children else []
    childTablesSummary :=
      if !verbose ∧ !children.isEmpty then some (countLine "child tables" children.length)
      else none
    typedTableOf := if kind.showsInheritance then info.ofType else none
    options := if verbose then info.options.filter (· ≠ "") else none
    server := server.map Prod.fst
    fdwOptions := server.bind Prod.snd }

end Section

end CatalogShell
