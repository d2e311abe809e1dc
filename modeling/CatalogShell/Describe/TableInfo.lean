import CatalogShell.Catalog.RelationKind
import CatalogShell.Inquiry

/-!
# Table info

The facts about a relation that decide which parts its description has.
-/

namespace CatalogShell

/-- The facts that decide which sections apply. -/
structure TableInfo where
  oid : Oid
  /-- The number of check constraints. -/
  checks : Int
  kind : RelationKind
  hasIndex : Bool
  hasRules : Bool
  hasTriggers : Bool
  /-- Storage options, those of the TOAST table included. -/
  options : Option String
  tablespace : Option String
  /-- The type that a typed table was made from. -/
  ofType : Option String
  persistence : String
  isPartition : Bool
deriving DecidableEq, Inhabited

namespace TableInfo

/-- The label of the query for these facts. -/
def label : String := "describe.table_info"

/-- The query for the facts about a relation. -/
def query (oid : Oid) : Query :=
  ({ label } : Query).push
      ("SELECT c.relchecks::int4, c.relkind::text, c.relhasindex, c.relhasrules, " ++
       "c.relhastriggers, pg_catalog.array_to_string(c.reloptions || array(SELECT 'toast.' || x " ++
       "FROM pg_catalog.unnest(tc.reloptions) x), ', '), c.reltablespace::text, CASE WHEN " ++
       "c.reloftype = 0 THEN '' ELSE c.reloftype::pg_catalog.regtype::pg_catalog.text END, " ++
       "c.relpersistence::text, c.relispartition FROM pg_catalog.pg_class c LEFT JOIN " ++
       "pg_catalog.pg_class tc ON (c.reltoastrelid = tc.oid) WHERE c.oid = ")
    |>.bind "" (.oid oid)

/-- Reads the facts from the row that the query gives. -/
def ofRow (oid : Oid) (row : Row) : Except Failure TableInfo := do
  let checks ← row.int label 0
  let kind ← row.text label 1
  let hasIndex ← row.bool label 2
  let hasRules ← row.bool label 3
  let hasTriggers ← row.bool label 4
  let options ← row.text? label 5
  let tablespace ← row.text? label 6
  let ofType ← row.text? label 7
  let persistence ← row.text? label 8
  let isPartition ← row.bool label 9
  return {
    oid, checks, kind := .ofText kind, hasIndex, hasRules, hasTriggers, options, tablespace
    ofType := ofType.filter (· ≠ ""), persistence := persistence.getD "", isPartition }

/-- The facts about a relation. -/
def lookup (oid : Oid) : Lookup TableInfo := do
  let row ← Lookup.askFirst (query oid)
  ofRow oid row

end TableInfo

end CatalogShell
