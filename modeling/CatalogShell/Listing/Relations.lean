import CatalogShell.Catalog.RelationKind
import CatalogShell.Listing.Filter

/-!
# Listings of relations

Relations of given kinds. Without a schema filter those of the system are left out.
-/

namespace CatalogShell.Listing

/-- Relations of the given kinds. -/
def relations (p : Pattern) (verbose : Bool) (kinds : List RelationKind) : Query :=
  ({ label := "list.objects" } : Query).push
      ("SELECT n.nspname::text AS schema, c.relname::text AS name, CASE c.relkind WHEN 'r' THEN " ++
       "'table' WHEN 'v' THEN 'view' WHEN 'p' THEN 'partitioned table' WHEN 'm' THEN " ++
       "'materialized view' WHEN 'i' THEN 'index' WHEN 'I' THEN 'partitioned index' WHEN 'S' " ++
       "THEN 'sequence' WHEN 's' THEN 'special' WHEN 'f' THEN 'foreign table' END AS type, " ++
       "pg_catalog.pg_get_userbyid(c.relowner)::text AS owner")
    |>.pushIf verbose
      (", pg_catalog.pg_size_pretty(pg_catalog.pg_table_size(c.oid)) AS size, " ++
       "pg_catalog.obj_description(c.oid, 'pg_class') AS description")
    |>.push
      " FROM pg_catalog.pg_class c LEFT JOIN pg_catalog.pg_namespace n ON n.oid = c.relnamespace"
    |>.ofKinds " WHERE c.relkind::text = ANY(" (kinds.map RelationKind.code)
    |>.inSchema p "n.nspname"
      (" AND n.nspname <> 'pg_catalog' AND n.nspname <> 'information_schema' AND n.nspname !~ " ++
       "'^pg_toast' AND pg_catalog.pg_table_is_visible(c.oid)")
    |>.named p "c.relname"
    |>.push " ORDER BY 1, 2"

end CatalogShell.Listing
