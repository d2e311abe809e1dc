import CatalogShell.Catalog.RelationKind
import CatalogShell.Failure
import CatalogShell.Report.Footer

/-!
# Reports

The description of one relation: a table with one row per column of the relation, and a footer.
Rows are added through `push`, which refuses a row that does not have one cell per header.
-/

namespace CatalogShell

/-- The description of a relation. -/
structure Report where
  schema : String
  name : String
  kind : RelationKind
  headers : List String
  rows : List (List String) := []
  footer : Footer := {}
deriving DecidableEq, Repr, Inhabited

/-- A text whose first character is an ASCII capital if it was a lower-case letter. -/
def capitalize (s : String) : String :=
  match s.toList with
  | [] => ""
  | c :: cs => String.ofList (c.toUpper :: cs)

namespace Report

/-- The kind and the qualified name. -/
def title (r : Report) : String :=
  capitalize r.kind.label ++ " \"" ++ r.schema ++ "." ++ r.name ++ "\""

/-- Add a row with one cell per header. -/
def push (r : Report) (row : List String) : Except Failure Report :=
  if row.length = r.headers.length then .ok { r with rows := r.rows ++ [row] }
  else .error (.internal ("describe row has " ++ row.length.repr ++ " cells but " ++
    r.headers.length.repr ++ " headers"))

/-- The cells under the first header of the given name, from top to bottom. -/
def columnValues? (r : Report) (header : String) : Option (List String) :=
  (r.headers.findIdx? (· = header)).map fun k => r.rows.map (·[k]?.getD "")

end Report

end CatalogShell
