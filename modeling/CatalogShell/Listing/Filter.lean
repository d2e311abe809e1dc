import CatalogShell.Pattern.Basic
import CatalogShell.Query

/-!
# Filters of listings

How a pattern restricts a listing. The text of a pattern is never part of a statement: its
filters are bound as values and compared with a column.

* `Query.matching`: a column must match a filter.
* `Query.inScope`: the schema must match the pattern's schema filter, or the entry must be
  visible without naming its schema.
* `Query.named`: a column must match the pattern's name filter, if it has one.
-/

namespace CatalogShell

namespace Query

/-- Require that a column matches a filter. -/
def matching (q : Query) (column filter : String) : Query :=
  q.bind (" AND " ++ column ++ " OPERATOR(pg_catalog.~) ") (.text filter)

/-- Require that a column matches the name filter, if there is one. -/
def named (q : Query) (p : Pattern) (column : String) : Query :=
  match p.nameFilter? with
  | some filter => q.matching column filter
  | none => q

/-- Require that the schema column matches the schema filter; without one, require `otherwise`
instead. -/
def inSchema (q : Query) (p : Pattern) (column otherwise : String) : Query :=
  match p.schemaFilter? with
  | some filter => q.matching column filter
  | none => q.push otherwise

/-- Require that the schema column matches the schema filter; without one, require visibility.
A pattern without any filter also leaves out the schemas of the system. -/
def inScope (q : Query) (p : Pattern) (column visible : String) : Query :=
  (q.inSchema p column (" AND " ++ visible)).pushIf p.isUnfiltered
    (" AND " ++ column ++ " <> 'pg_catalog' AND " ++ column ++ " <> 'information_schema'")

/-- Require that a relation's kind is one of the given kinds: `before` and `)` stand around the
placeholder of their codes. -/
def ofKinds (q : Query) (before : String) (codes : List Char) : Query :=
  (q.bind before (.textArray (codes.map Char.toString))).push ")"

end Query

end CatalogShell
