import CatalogShell.Catalog.RelationKind
import CatalogShell.Inquiry
import CatalogShell.Listing.Filter

/-!
# Resolving patterns

The relations that a pattern matches, in the order of schema and name. Without a schema filter
only relations count that are visible on the search path, and without any filter those of the
system are left out.
-/

namespace CatalogShell

namespace Resolve

/-- The label of the query for the relations. -/
def label : String := "resolve.relations"

/-- The query for the relations of the given kinds that a pattern matches; no kinds: all. -/
def query (p : Pattern) (kinds : List RelationKind) : Query :=
  let q := ({ label } : Query).push
    ("SELECT c.oid, n.nspname, c.relname, c.relkind::text FROM pg_catalog.pg_class c LEFT JOIN " ++
     "pg_catalog.pg_namespace n ON n.oid = c.relnamespace WHERE true")
  let q := if kinds.isEmpty then q
    else q.ofKinds " AND c.relkind::text = ANY(" (kinds.map RelationKind.code)
  q.inSchema p "n.nspname" " AND pg_catalog.pg_table_is_visible(c.oid)"
    |>.pushIf p.isUnfiltered
      (" AND n.nspname <> 'pg_catalog'AND n.nspname <> 'information_schema'AND n.nspname !~ " ++
       "'^pg_toast'")
    |>.named p "c.relname"
    |>.push " ORDER BY 2, 3"

/-- Reads an object from a row that the query gives. A missing schema is read as empty. -/
def ofRow (row : Row) : Except Failure ObjectRef := do
  let oid ← row.oid label 0
  let schema ← row.text? label 1
  let name ← row.text label 2
  let kind ← row.text label 3
  return ⟨oid, schema.getD "", name, .ofText kind⟩

/-- The relations of the given kinds that a pattern matches. -/
def all (p : Pattern) (kinds : List RelationKind) : Lookup (List ObjectRef) := do
  let answer ← Lookup.ask (query p kinds)
  (answer.rows.mapM ofRow : Except Failure (List ObjectRef))

/-- The relations that a pattern matches, at least one of them. -/
def required (text : String) (p : Pattern) (kinds : List RelationKind) :
    Lookup (List ObjectRef) := do
  let objects ← all p kinds
  if objects.isEmpty then throw (.objectNotFound text)
  return objects

end Resolve

end CatalogShell
