import CatalogShell.Listing.Filter

/-!
# Listings of types

Data types and domains.
-/

namespace CatalogShell.Listing

/-- Data types. The name filter must match the internal or the formatted name. -/
def dataTypes (p : Pattern) (verbose : Bool) : Query :=
  let q := ({ label := "list.datatypes" } : Query).push
      "SELECT n.nspname::text AS schema, pg_catalog.format_type(t.oid, NULL) AS name"
    |>.push (if verbose then
        (", t.typname::text AS internal_name, CASE WHEN t.typrelid != 0 THEN 'tuple' WHEN " ++
         "t.typlen < 0 THEN 'var' ELSE t.typlen::text END AS size, " ++
         "pg_catalog.array_to_string(ARRAY( SELECT e.enumlabel::text FROM pg_catalog.pg_enum e " ++
         "WHERE e.enumtypid = t.oid ORDER BY e.enumsortorder), E'\\n') AS elements, " ++
         "pg_catalog.array_to_string(t.typacl, E'\\n') AS access_privileges, " ++
         "pg_catalog.obj_description(t.oid, 'pg_type') AS description")
      else ", pg_catalog.obj_description(t.oid, 'pg_type') AS description")
    |>.push
      (" FROM pg_catalog.pg_type t LEFT JOIN pg_catalog.pg_namespace n ON n.oid = " ++
       "t.typnamespace WHERE (t.typrelid = 0 OR (SELECT c.relkind = 'c' FROM " ++
       "pg_catalog.pg_class c WHERE c.oid = t.typrelid)) AND NOT EXISTS (SELECT 1 FROM " ++
       "pg_catalog.pg_type el WHERE el.oid = t.typelem AND el.typarray = t.oid)")
    |>.inScope p "n.nspname" "pg_catalog.pg_type_is_visible(t.oid)"
  let q := match p.nameFilter? with
    | some name =>
      let (filter, q) := q.hold (.text name)
      q.append [
        .text " AND (t.typname OPERATOR(pg_catalog.~) ",
        .slot filter,
        .text " OR pg_catalog.format_type(t.oid, NULL) OPERATOR(pg_catalog.~) ",
        .slot filter,
        .text ")"]
    | none => q
  q.push " ORDER BY 1, 2"

/-- Domains. -/
def domains (p : Pattern) (verbose : Bool) : Query :=
  ({ label := "list.domains" } : Query).push
      ("SELECT n.nspname::text AS schema, t.typname::text AS name, " ++
       "pg_catalog.format_type(t.typbasetype, t.typtypmod) AS type, " ++
       "pg_catalog.ltrim((COALESCE((SELECT (' collate ' || c.collname) FROM " ++
       "pg_catalog.pg_collation AS c, pg_catalog.pg_type AS bt WHERE c.oid = t.typcollation AND " ++
       "bt.oid = t.typbasetype AND t.typcollation <> bt.typcollation), '') || CASE WHEN " ++
       "t.typnotnull THEN ' not null' ELSE '' END) || CASE WHEN t.typdefault IS NOT NULL THEN " ++
       "(' default ' || t.typdefault) ELSE '' END) AS modifier, " ++
       "pg_catalog.array_to_string(ARRAY( SELECT pg_catalog.pg_get_constraintdef(r.oid, TRUE) " ++
       "FROM pg_catalog.pg_constraint AS r WHERE t.oid = r.contypid), ' ') AS check")
    |>.pushIf verbose
      (", pg_catalog.array_to_string(t.typacl, E'\\n') AS access_privileges, d.description AS " ++
       "description")
    |>.push
      (" FROM pg_catalog.pg_type AS t LEFT JOIN pg_catalog.pg_namespace AS n ON n.oid = " ++
       "t.typnamespace")
    |>.pushIf verbose
      (" LEFT JOIN pg_catalog.pg_description d ON d.classoid = t.tableoid AND d.objoid = t.oid " ++
       "AND d.objsubid = 0")
    |>.push " WHERE t.typtype = 'd'"
    |>.inScope p "n.nspname" "pg_catalog.pg_type_is_visible(t.oid)"
    |>.named p "t.typname"
    |>.push " ORDER BY 1, 2"

end CatalogShell.Listing
