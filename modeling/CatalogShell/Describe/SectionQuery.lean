import CatalogShell.Query

/-!
# Queries for the sections of a footer

One query for each section. All of them are about one relation, whose object identifier is
their only parameter.
-/

namespace CatalogShell

/-- A query with one object identifier between two texts. -/
def Query.ofOid (label : String) (oid : Oid) (before after : String) : Query :=
  (({ label } : Query).bind before (.oid oid)).push after

namespace SectionQuery

/-- The query for the definition of a view. -/
def viewDefinition (oid : Oid) : Query :=
  .ofOid "describe.view_definition" oid
    "SELECT pg_catalog.pg_get_viewdef("
    "::pg_catalog.oid, true)"

/-- The query for the facts about an index. -/
def indexFooter (oid : Oid) : Query :=
  .ofOid "describe.index_footer" oid
    ("SELECT i.indisunique, i.indisprimary, i.indisclustered, i.indisvalid, (NOT " ++
     "i.indimmediate) AND EXISTS (SELECT 1 FROM pg_catalog.pg_constraint WHERE conrelid = " ++
     "i.indrelid AND conindid = i.indexrelid AND contype IN ('p','u','x') AND condeferrable) AS " ++
     "condeferrable, (NOT i.indimmediate) AND EXISTS (SELECT 1 FROM pg_catalog.pg_constraint " ++
     "WHERE conrelid = i.indrelid AND conindid = i.indexrelid AND contype IN ('p','u','x') AND " ++
     "condeferred) AS condeferred, a.amname::text, c2.relname::text, " ++
     "pg_catalog.pg_get_expr(i.indpred, i.indrelid, true) FROM pg_catalog.pg_index i, " ++
     "pg_catalog.pg_class c, pg_catalog.pg_class c2, pg_catalog.pg_am a WHERE i.indexrelid = " ++
     "c.oid AND c.oid = ")
    " AND c.relam = a.oid AND i.indrelid = c2.oid"

/-- The query for the column that owns a sequence. -/
def sequenceOwner (oid : Oid) : Query :=
  .ofOid "describe.sequence_owner" oid
    ("SELECT pg_catalog.quote_ident(nspname) || '.' || pg_catalog.quote_ident(relname) || '.' " ++
     "|| pg_catalog.quote_ident(attname) FROM pg_catalog.pg_class c INNER JOIN " ++
     "pg_catalog.pg_depend d ON c.oid = d.refobjid INNER JOIN pg_catalog.pg_namespace n ON " ++
     "n.oid = c.relnamespace INNER JOIN pg_catalog.pg_attribute a ON (a.attrelid = c.oid AND " ++
     "a.attnum = d.refobjsubid) WHERE d.classid = 'pg_catalog.pg_class'::pg_catalog.regclass " ++
     "AND d.refclassid = 'pg_catalog.pg_class'::pg_catalog.regclass AND d.objid = ")
    " AND d.deptype = 'a'"

/-- The query for the indexes of a relation. -/
def indexes (oid : Oid) : Query :=
  .ofOid "describe.indexes" oid
    ("SELECT c2.relname::text, i.indisprimary, i.indisunique, i.indisclustered, i.indisvalid, " ++
     "pg_catalog.pg_get_indexdef(i.indexrelid, 0, true), " ++
     "pg_catalog.pg_get_constraintdef(con.oid, true), con.contype::text, con.condeferrable, " ++
     "con.condeferred FROM pg_catalog.pg_class c, pg_catalog.pg_class c2, pg_catalog.pg_index i " ++
     "LEFT JOIN pg_catalog.pg_constraint con ON con.conrelid = i.indrelid AND con.conindid = " ++
     "i.indexrelid AND con.contype IN ('p','u','x') WHERE c.oid = ")
    (" AND c.oid = i.indrelid AND i.indexrelid = c2.oid ORDER BY i.indisprimary DESC, " ++
     "i.indisunique DESC, c2.relname")

/-- The query for the check constraints of a relation. -/
def checkConstraints (oid : Oid) : Query :=
  .ofOid "describe.check_constraints" oid
    ("SELECT r.conname::text, pg_catalog.pg_get_constraintdef(r.oid, true) FROM " ++
     "pg_catalog.pg_constraint r WHERE r.conrelid = ")
    " AND r.contype = 'c' ORDER BY 1"

/-- The query for the foreign keys of a relation. -/
def foreignKeys (oid : Oid) : Query :=
  .ofOid "describe.foreign_keys" oid
    ("SELECT r.conname::text, pg_catalog.pg_get_constraintdef(r.oid, true) FROM " ++
     "pg_catalog.pg_constraint r WHERE r.conrelid = ")
    " AND r.contype = 'f' ORDER BY 1"

/-- The query for the foreign keys that refer to a relation. -/
def referencedBy (oid : Oid) : Query :=
  .ofOid "describe.referenced_by" oid
    ("SELECT c.conrelid::pg_catalog.regclass::text, c.conname::text, " ++
     "pg_catalog.pg_get_constraintdef(c.oid, true) FROM pg_catalog.pg_constraint c WHERE " ++
     "c.confrelid = ")
    " AND c.contype = 'f' ORDER BY 1"

/-- The query for the rules of a relation. -/
def rules (oid : Oid) : Query :=
  .ofOid "describe.rules" oid
    ("SELECT r.rulename::text, trim(trailing ';' from pg_catalog.pg_get_ruledef(r.oid, true)), " ++
     "r.ev_enabled::text FROM pg_catalog.pg_rewrite r WHERE r.ev_class = ")
    " ORDER BY 1"

/-- The query for the triggers of a relation. -/
def triggers (oid : Oid) : Query :=
  .ofOid "describe.triggers" oid
    ("SELECT t.tgname::text, pg_catalog.pg_get_triggerdef(t.oid, true), t.tgenabled::text FROM " ++
     "pg_catalog.pg_trigger t WHERE t.tgrelid = ")
    " AND NOT t.tgisinternal ORDER BY 1"

/-- The query for the table that a relation is a partition of. -/
def partitionOf (oid : Oid) : Query :=
  .ofOid "describe.partition_of" oid
    ("SELECT quote_ident(np.nspname) || '.' || quote_ident(cp.relname) || ' ' || " ++
     "pg_get_expr(cc.relpartbound, cc.oid, true), pg_get_partition_constraintdef(cc.oid) FROM " ++
     "pg_catalog.pg_inherits i INNER JOIN pg_catalog.pg_class cp ON cp.oid = i.inhparent INNER " ++
     "JOIN pg_catalog.pg_namespace np ON np.oid = cp.relnamespace INNER JOIN " ++
     "pg_catalog.pg_class cc ON cc.oid = i.inhrelid WHERE cc.oid = ")
    ""

/-- The query for the partition key of a relation. -/
def partitionKey (oid : Oid) : Query :=
  .ofOid "describe.partition_key" oid
    "SELECT pg_catalog.pg_get_partkeydef("
    ")"

/-- The query for the partitions of a relation. -/
def partitions (oid : Oid) : Query :=
  .ofOid "describe.partitions" oid
    ("SELECT quote_ident(n.nspname) || '.' || quote_ident(c.relname) || ' ' || " ++
     "pg_get_expr(c.relpartbound, c.oid, true) FROM pg_catalog.pg_inherits i INNER JOIN " ++
     "pg_catalog.pg_class c ON c.oid = i.inhrelid INNER JOIN pg_catalog.pg_namespace n ON n.oid " ++
     "= c.relnamespace WHERE i.inhparent = ")
    " ORDER BY 1"

/-- The query for the server of a foreign table. -/
def foreignTable (oid : Oid) : Query :=
  .ofOid "describe.foreign_table" oid
    ("SELECT s.srvname::text, array_to_string(ARRAY(SELECT quote_ident(option_name) || ' ' || " ++
     "quote_literal(option_value) FROM pg_options_to_table(ftoptions)), ', ') FROM " ++
     "pg_catalog.pg_foreign_table f, pg_catalog.pg_foreign_server s WHERE f.ftrelid = ")
    " AND s.oid = f.ftserver"

/-- The query for the parents of a relation. -/
def inherits (oid : Oid) : Query :=
  .ofOid "describe.inherits" oid
    ("SELECT c.oid::pg_catalog.regclass::text FROM pg_catalog.pg_class c, " ++
     "pg_catalog.pg_inherits i WHERE c.oid = i.inhparent AND i.inhrelid = ")
    " ORDER BY inhseqno"

/-- The query for the children of a relation. -/
def childTables (oid : Oid) : Query :=
  .ofOid "describe.child_tables" oid
    ("SELECT c.oid::pg_catalog.regclass::text FROM pg_catalog.pg_class c, " ++
     "pg_catalog.pg_inherits i WHERE c.oid = i.inhrelid AND i.inhparent = ")
    " ORDER BY c.oid::pg_catalog.regclass::pg_catalog.text"

end SectionQuery

end CatalogShell
