import CatalogShell.Describe.TableInfo
import CatalogShell.Text.Identifier

/-!
# Columns of a relation

The table in a description: one row per column of the relation. `columnHeaders` gives its headers
and `Column.cells` the cells of a row. Each of them goes by the kind of the relation on its own.

A sequence shows next to each column the value at the same place of its state row.
-/

namespace CatalogShell

/-- The headers of the table. -/
def columnHeaders (kind : RelationKind) (verbose : Bool) : List String :=
  ["Column", "Type"] ++
  (if kind.hasModifiers then ["Modifiers"] else []) ++
  (match kind with
    | .sequence => ["Value"]
    | .index | .partitionedIndex => ["Definition"]
    | .foreignTable => ["FDW Options"]
    | .table | .partitionedTable | .view | .materializedView | .compositeType | .toast
    | .other _ => []) ++
  if verbose then
    ["Storage"] ++
    (if kind.hasStatsTarget then ["Stats target"] else []) ++
    if kind.hasDescription then ["Description"] else []
  else []

/-- The facts about a column. -/
structure Column where
  name : String
  type : String
  default : Option String
  notNull : Bool
  collation : Option String
  identity : String
  generated : String
  definition : Option String
  fdwOptions : Option String
  storage : Option String
  statsTarget : Option Int
  description : Option String
deriving DecidableEq, Inhabited

/-- The name of a way to store a column. -/
def storageLabel (code : String) : String :=
  match code.toList with
  | 'p' :: _ => "plain"
  | 'm' :: _ => "main"
  | 'x' :: _ => "extended"
  | 'e' :: _ => "external"
  | _ => "???"

namespace Column

/-- The label of the query for the columns of a relation. -/
def label : String := "describe.columns"

/-- The query for the columns of a relation. -/
def query (oid : Oid) (kind : RelationKind) (verbose : Bool) : Query :=
  let (relation, q) := ({ label } : Query).hold (.oid oid)
  let q := q.push
    ("SELECT a.attname, pg_catalog.format_type(a.atttypid, a.atttypmod), (SELECT " ++
     "substring(pg_catalog.pg_get_expr(d.adbin, d.adrelid, true) for 128) FROM " ++
     "pg_catalog.pg_attrdef d WHERE d.adrelid = a.attrelid AND d.adnum = a.attnum AND " ++
     "a.atthasdef), a.attnotnull, (SELECT c.collname FROM pg_catalog.pg_collation c, " ++
     "pg_catalog.pg_type t WHERE c.oid = a.attcollation AND t.oid = a.atttypid AND " ++
     "a.attcollation <> t.typcollation) AS attcollation, a.attidentity::text, " ++
     "a.attgenerated::text")
  let q :=
    if kind.isIndex then q.append [
      .text (", CASE WHEN a.attnum <= (SELECT i.indnkeyatts FROM pg_catalog.pg_index i WHERE " ++
             "i.indexrelid = "),
      .slot relation,
      .text (") THEN 'yes' ELSE 'no' END AS is_key, pg_catalog.pg_get_indexdef(a.attrelid, " ++
             "a.attnum, TRUE) AS indexdef")]
    else q.push ", NULL::text AS is_key, NULL::text AS indexdef"
  let q :=
    if kind = .foreignTable then q.push
      (", CASE WHEN attfdwoptions IS NULL THEN '' ELSE '(' || array_to_string(ARRAY(SELECT " ++
       "quote_ident(option_name) || ' ' || quote_literal(option_value) FROM " ++
       "pg_options_to_table(attfdwoptions)), ', ') || ')' END AS attfdwoptions")
    else q.push ", NULL::text AS attfdwoptions"
  let q :=
    if verbose then
      let q := q.push ", a.attstorage::text"
      let q :=
        if kind.hasStatsTarget then q.push
          (", CASE WHEN a.attstattarget = -1 THEN NULL ELSE a.attstattarget::int4 END AS " ++
           "attstattarget")
        else q.push ", NULL::int4 AS attstattarget"
      if kind.hasDescription then q.push
        ", pg_catalog.col_description(a.attrelid, a.attnum)"
      else q.push ", NULL::text AS attdescr"
    else q.push
      ", NULL::text AS attstorage, NULL::int4 AS attstattarget, NULL::text AS attdescr"
  q.append [
    .text " FROM pg_catalog.pg_attribute a WHERE a.attrelid = ",
    .slot relation,
    .text " AND a.attnum > 0 AND NOT a.attisdropped ORDER BY a.attnum"]

/-- The query for the state of a sequence. -/
def sequenceState (schema name : String) : Query :=
  .ofText "describe.sequence_state"
    ("SELECT * FROM " ++ Text.quoteIdent schema ++ "." ++ Text.quoteIdent name)

/-- Reads the facts from a row that the query gives. -/
def ofRow (row : Row) : Except Failure Column := do
  let name ← row.text label 0
  let type ← row.text label 1
  let default ← row.text? label 2
  let notNull ← row.bool label 3
  let collation ← row.text? label 4
  let identity ← row.text? label 5
  let generated ← row.text? label 6
  let definition ← row.text? label 8
  let fdwOptions ← row.text? label 9
  let storage ← row.text? label 10
  let statsTarget ← row.int? label 11
  let description ← row.text? label 12
  return {
    name, type, default, notNull, collation, identity := identity.getD ""
    generated := generated.getD "", definition, fdwOptions, storage, statsTarget, description }

/-- The column is computed from others and stored. -/
def isStored (c : Column) : Bool := c.generated = "s"

/-- The modifier that says how values are generated. -/
def generation (c : Column) : List String :=
  if c.identity = "a" then ["generated always as identity"]
  else if c.identity = "d" then ["generated by default as identity"]
  else if c.isStored then
    c.default.toList.map fun e => "generated always as (" ++ e ++ ") stored"
  else []

/-- Collation, not-null, default and generation, as far as the column has them. -/
def modifiers (c : Column) : String :=
  " ".intercalate (
    (c.collation.toList.map fun s => "collate " ++ s) ++
    (if c.notNull then ["not null"] else []) ++
    (if c.isStored then [] else c.default.toList.map fun e => "default " ++ e) ++
    c.generation)

/-- The cells of a column. `state` is the value of a sequence that belongs to the column. -/
def cells (kind : RelationKind) (verbose : Bool) (c : Column) (state : Option Value) :
    List String :=
  [c.name, c.type] ++
  (if kind.hasModifiers then [c.modifiers] else []) ++
  (match kind with
    | .sequence => [state.elim "" Value.display]
    | .index | .partitionedIndex => [c.definition.getD ""]
    | .foreignTable => [c.fdwOptions.getD ""]
    | .table | .partitionedTable | .view | .materializedView | .compositeType | .toast
    | .other _ => []) ++
  if verbose then
    [c.storage.elim "" storageLabel] ++
    (if kind.hasStatsTarget then [c.statsTarget.elim "" Value.showInt] else []) ++
    if kind.hasDescription then [c.description.getD ""] else []
  else []

/-- The values in the state of a sequence; other relations have none. -/
def lookupState (kind : RelationKind) (schema name : String) : Lookup (List Value) :=
  if kind = .sequence then do
    let row ← Lookup.askFirst? (sequenceState schema name)
    return row.elim [] Row.values
  else pure []

/-- The rows of the table. -/
def lookupRows (info : TableInfo) (schema name : String) (verbose : Bool) :
    Lookup (List (List String)) := do
  let answer ← Lookup.ask (query info.oid info.kind verbose)
  let state ← lookupState info.kind schema name
  let columns ← (answer.rows.mapM ofRow : Except Failure (List Column))
  return columns.mapIdx fun k c => c.cells info.kind verbose state[k]?

end Column

end CatalogShell
