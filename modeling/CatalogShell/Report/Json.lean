import CatalogShell.Report.Basic
import CatalogShell.Value.Json

/-!
# Reports as JSON

A footer has a member for each section that is not empty, and so have the groups of a section
by firing mode.
-/

namespace CatalogShell

/-- A list as a member, unless it is empty. -/
def listMember (key : String) (items : List String) : List (String × Json) :=
  if items.isEmpty then [] else [(key, .arr (items.map .str))]

/-- A text as a member, if there is one. -/
def textMember (key : String) (text : Option String) : List (String × Json) :=
  text.toList.map fun s => (key, .str s)

/-- The JSON form of groups by firing mode. -/
def FiringGroups.toJson (g : FiringGroups) : Json :=
  .obj (listMember "enabled" g.enabled ++ listMember "disabled" g.disabled ++
    listMember "always" g.always ++ listMember "replica" g.replica)

/-- Groups by firing mode as a member, unless all are empty. -/
def firingMember (key : String) (g : FiringGroups) : List (String × Json) :=
  if g.isEmpty then [] else [(key, g.toJson)]

/-- The JSON form of a footer. -/
def Footer.toJson (f : Footer) : Json :=
  .obj (textMember "index_summary" f.indexSummary ++
    listMember "indexes" f.indexes ++
    listMember "check_constraints" f.checkConstraints ++
    listMember "foreign_keys" f.foreignKeys ++
    listMember "referenced_by" f.referencedBy ++
    textMember "view_definition" f.viewDefinition ++
    firingMember "rules" f.rules ++
    firingMember "triggers" f.triggers ++
    listMember "partition_of" f.partitionOf ++
    listMember "partition_constraints" f.partitionConstraints ++
    textMember "partition_key" f.partitionKey ++
    listMember "partitions" f.partitions ++
    textMember "partitions_summary" f.partitionsSummary ++
    listMember "inherits" f.inherits ++
    listMember "child_tables" f.childTables ++
    textMember "child_tables_summary" f.childTablesSummary ++
    textMember "typed_table_of" f.typedTableOf ++
    textMember "options" f.options ++
    textMember "server" f.server ++
    textMember "fdw_options" f.fdwOptions ++
    textMember "owned_by" f.ownedBy)

/-- The JSON form of a report. -/
def Report.toJson (r : Report) : Json :=
  .obj [("schema", .str r.schema), ("name", .str r.name), ("kind", r.kind.toJson),
    ("column_headers", .arr (r.headers.map .str)),
    ("rows", .arr (r.rows.map fun row => .arr (row.map .str))),
    ("footer", r.footer.toJson)]

end CatalogShell
