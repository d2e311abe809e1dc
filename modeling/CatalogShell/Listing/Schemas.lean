import CatalogShell.Listing.Filter

/-!
# Listings of schemas and privileges

Schemas, privileges on relations, and default privileges.
-/

namespace CatalogShell.Listing

/-- Schemas. Those of the system are left out unless a pattern asks for them. -/
def schemas (p : Pattern) (verbose : Bool) : Query :=
  ({ label := "list.schemas" } : Query).push
      "SELECT n.nspname::text AS name, pg_catalog.pg_get_userbyid(n.nspowner)::text AS owner"
    |>.pushIf verbose
      (", pg_catalog.array_to_string(n.nspacl, E'\\n') AS access_privileges, " ++
       "pg_catalog.obj_description(n.oid, 'pg_namespace') AS description")
    |>.push " FROM pg_catalog.pg_namespace n WHERE true"
    |>.pushIf p.isUnfiltered
      " AND n.nspname !~ '^pg_' AND n.nspname <> 'information_schema'"
    |>.named p "n.nspname"
    |>.push " ORDER BY 1"

/-- Privileges on relations and their columns, and policies. -/
def privileges (p : Pattern) : Query :=
  ({ label := "list.privileges" } : Query).push
      ("SELECT n.nspname::text AS schema, c.relname::text AS name, CASE c.relkind WHEN 'r' THEN " ++
       "'table' WHEN 'v' THEN 'view' WHEN 'm' THEN 'materialized view' WHEN 'S' THEN 'sequence' " ++
       "WHEN 'f' THEN 'foreign table' WHEN 'p' THEN 'partitioned table' END AS type, " ++
       "pg_catalog.array_to_string(c.relacl, E'\\n') AS access_privileges, " ++
       "pg_catalog.array_to_string(ARRAY( SELECT attname || E':\\n  ' || " ++
       "pg_catalog.array_to_string(attacl, E'\\n  ') FROM pg_catalog.pg_attribute a WHERE " ++
       "attrelid = c.oid AND NOT attisdropped AND attacl IS NOT NULL ), E'\\n') AS " ++
       "column_privileges, pg_catalog.array_to_string(ARRAY( SELECT polname || CASE WHEN NOT " ++
       "polpermissive THEN E' (RESTRICTIVE)' ELSE '' END || CASE WHEN polcmd != '*' THEN E' (' " ++
       "|| polcmd::pg_catalog.text || E'):' ELSE E':' END || CASE WHEN polqual IS NOT NULL THEN " ++
       "E'\\n  (u): ' || pg_catalog.pg_get_expr(polqual, polrelid) ELSE E'' END || CASE WHEN " ++
       "polwithcheck IS NOT NULL THEN E'\\n  (c): ' || pg_catalog.pg_get_expr(polwithcheck, " ++
       "polrelid) ELSE E'' END || CASE WHEN polroles <> '\x7b0\x7d' THEN E'\\n  to: ' || " ++
       "pg_catalog.array_to_string(ARRAY( SELECT rolname FROM pg_catalog.pg_roles WHERE oid = " ++
       "ANY (polroles) ORDER BY 1 ), E', ') ELSE E'' END FROM pg_catalog.pg_policy pol WHERE " ++
       "polrelid = c.oid), E'\\n') AS policies FROM pg_catalog.pg_class c LEFT JOIN " ++
       "pg_catalog.pg_namespace n ON n.oid = c.relnamespace WHERE c.relkind IN " ++
       "('r','v','m','S','f','p')")
    |>.inSchema p "n.nspname" " AND pg_catalog.pg_table_is_visible(c.oid)"
    |>.named p "c.relname"
    |>.push " AND n.nspname !~ '^pg_' ORDER BY 1, 2"

/-- Default privileges. The name filter must match the schema or the owner. -/
def defaultPrivileges (p : Pattern) : Query :=
  let q := ({ label := "list.default_privileges" } : Query).push
    ("SELECT pg_catalog.pg_get_userbyid(d.defaclrole)::text AS owner, n.nspname::text AS " ++
     "schema, CASE d.defaclobjtype WHEN 'r' THEN 'table' WHEN 'S' THEN 'sequence' WHEN 'f' THEN " ++
     "'function' WHEN 'T' THEN 'type' WHEN 'n' THEN 'schema' END AS type, " ++
     "pg_catalog.array_to_string(d.defaclacl, E'\\n') AS access_privileges FROM " ++
     "pg_catalog.pg_default_acl d LEFT JOIN pg_catalog.pg_namespace n ON n.oid = " ++
     "d.defaclnamespace")
  let q := match p.nameFilter? with
    | some name =>
      let (filter, q) := q.hold (.text name)
      q.append [
        .text " WHERE (n.nspname OPERATOR(pg_catalog.~) ",
        .slot filter,
        .text (" COLLATE pg_catalog.default OR pg_catalog.pg_get_userbyid(d.defaclrole) " ++
               "OPERATOR(pg_catalog.~) "),
        .slot filter,
        .text " COLLATE pg_catalog.default)"]
    | none => q
  q.push " ORDER BY 1, 2, 3"

end CatalogShell.Listing
