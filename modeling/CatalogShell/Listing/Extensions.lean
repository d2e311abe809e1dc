import CatalogShell.Listing.Filter

/-!
# Listings of extensions

Extensions, and the objects that belong to one.
-/

namespace CatalogShell.Listing

/-- Extensions. -/
def extensions (p : Pattern) : Query :=
  ({ label := "list.extensions" } : Query).push
      ("SELECT e.extname::text AS name, e.extversion AS version, n.nspname::text AS schema, " ++
       "c.description AS description FROM pg_catalog.pg_extension e LEFT JOIN " ++
       "pg_catalog.pg_namespace n ON n.oid = e.extnamespace LEFT JOIN pg_catalog.pg_description " ++
       "c ON c.objoid = e.oid AND c.classoid = 'pg_catalog.pg_extension'::pg_catalog.regclass " ++
       "WHERE true")
    |>.named p "e.extname"
    |>.push " ORDER BY 1, 2"

/-- The extensions whose name is exactly the given one, or all if it is empty. -/
def findExtensions (name : String) : Query :=
  let q := ({ label := "list.extensions.find" } : Query).push
    "SELECT e.extname::text, e.oid FROM pg_catalog.pg_extension e"
  let q := if name = "" then q else q.bind " WHERE e.extname = " (.text name)
  q.push " ORDER BY 1, 2"

/-- The objects that belong to an extension. -/
def extensionMembers (oid : Oid) : Query :=
  (({ label := "list.extensions.members" } : Query).bind
      ("SELECT pg_catalog.pg_describe_object(classid, objid, 0) AS object_description FROM " ++
       "pg_catalog.pg_depend WHERE refclassid = 'pg_catalog.pg_extension'::pg_catalog.regclass " ++
       "AND deptype = 'e' AND refobjid = ")
      (.oid oid)).push " ORDER BY 1"

end CatalogShell.Listing
