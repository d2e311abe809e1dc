import CatalogShell.Listing.Filter

/-!
# Listings of functions

Functions, and the definition of a single one.
-/

namespace CatalogShell.Listing

/-- Functions. -/
def functions (p : Pattern) (verbose : Bool) : Query :=
  ({ label := "list.functions" } : Query).push
      ("SELECT n.nspname::text AS schema, p.proname::text AS name, " ++
       "pg_catalog.pg_get_function_result(p.oid) AS \"Result data type\", " ++
       "pg_catalog.pg_get_function_arguments(p.oid) AS \"Argument data types\", CASE WHEN " ++
       "p.prokind = 'a' THEN 'agg' WHEN p.prokind = 'w' THEN 'window' WHEN p.prorettype = " ++
       "'pg_catalog.trigger'::pg_catalog.regtype THEN 'trigger' ELSE 'normal' END AS type")
    |>.pushIf verbose
      (", CASE WHEN p.provolatile = 'i' THEN 'immutable' WHEN p.provolatile = 's' THEN 'stable' " ++
       "WHEN p.provolatile = 'v' THEN 'volatile' END AS \"Volatility\", " ++
       "pg_catalog.pg_get_userbyid(p.proowner)::text AS owner, l.lanname::text AS \"Language\", " ++
       "p.prosrc AS \"Source code\", pg_catalog.obj_description(p.oid, 'pg_proc') AS description")
    |>.push
      " FROM pg_catalog.pg_proc p LEFT JOIN pg_catalog.pg_namespace n ON n.oid = p.pronamespace"
    |>.pushIf verbose " LEFT JOIN pg_catalog.pg_language l ON l.oid = p.prolang"
    |>.push " WHERE true"
    |>.inScope p "n.nspname" "pg_catalog.pg_function_is_visible(p.oid)"
    |>.named p "p.proname"
    |>.push " ORDER BY 1, 2, 4"

/-- The object identifier of a function, by its name, or by its signature if the text has a
parenthesis. -/
def functionLookup (name : String) : Query :=
  let cast :=
    if name.toList.contains '(' then "::pg_catalog.regprocedure" else "::pg_catalog.regproc"
  (({ label := "show.function.lookup" } : Query).bind "SELECT " (.text name)).push
    ("::text" ++ cast ++ "::pg_catalog.oid")

/-- The definition of a function. -/
def functionDefinition (oid : Oid) : Query :=
  (({ label := "show.function.definition" } : Query).bind
    "SELECT pg_catalog.pg_get_functiondef(" (.oid oid)).push ") AS source"

end CatalogShell.Listing
