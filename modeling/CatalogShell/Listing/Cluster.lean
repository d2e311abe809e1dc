import CatalogShell.Listing.Filter

/-!
# Listings of what all databases share

Databases, roles and tablespaces. Only the name part of a pattern restricts them.
-/

namespace CatalogShell.Listing

/-- Databases. -/
def databases (p : Pattern) (verbose : Bool) : Query :=
  ({ label := "list.databases" } : Query).push
      ("SELECT d.datname::text AS name, pg_catalog.pg_get_userbyid(d.datdba)::text AS owner, " ++
       "pg_catalog.pg_encoding_to_char(d.encoding)::text AS encoding, d.datcollate::text AS " ++
       "collate, d.datctype::text AS ctype, pg_catalog.array_to_string(d.datacl, E'\\n') AS " ++
       "access_privileges")
    |>.pushIf verbose
      (", CASE WHEN pg_catalog.has_database_privilege(d.datname, 'CONNECT') THEN " ++
       "pg_catalog.pg_size_pretty(pg_catalog.pg_database_size(d.datname)) ELSE 'No Access' END " ++
       "AS size, t.spcname::text AS \"Tablespace\", pg_catalog.shobj_description(d.oid, " ++
       "'pg_database') AS description")
    |>.push " FROM pg_catalog.pg_database d"
    |>.pushIf verbose " JOIN pg_catalog.pg_tablespace t ON d.dattablespace = t.oid"
    |>.push " WHERE true"
    |>.named p "d.datname"
    |>.push " ORDER BY 1"

/-- Roles and the roles that they are members of. -/
def roles (p : Pattern) (verbose : Bool) : Query :=
  ({ label := "list.roles" } : Query).push
      ("SELECT r.rolname::text, r.rolsuper, r.rolinherit, r.rolcreaterole, r.rolcreatedb, " ++
       "r.rolcanlogin, r.rolconnlimit, r.rolvaliduntil::text, ARRAY(SELECT b.rolname::text FROM " ++
       "pg_catalog.pg_auth_members m JOIN pg_catalog.pg_roles b ON (m.roleid = b.oid) WHERE " ++
       "m.member = r.oid) AS memberof")
    |>.pushIf verbose
      ", pg_catalog.shobj_description(r.oid, 'pg_authid') AS description"
    |>.push ", r.rolreplication FROM pg_catalog.pg_roles r WHERE true"
    |>.named p "r.rolname"
    |>.push " ORDER BY 1"

/-- Whether the server can tell where a tablespace lies. -/
def locationProbe : Query :=
  .ofText "list.tablespaces.probe"
    "SELECT EXISTS (SELECT 1 FROM pg_catalog.pg_proc WHERE proname = 'pg_tablespace_location')"

/-- Tablespaces, with their location if the server can tell it. -/
def tablespaces (p : Pattern) (location : Bool) : Query :=
  ({ label := "list.tablespaces" } : Query).push
      "SELECT n.spcname::text AS name, pg_catalog.pg_get_userbyid(n.spcowner)::text AS owner, "
    |>.push (if location then "pg_catalog.pg_tablespace_location(n.oid) AS location"
      else "'Not supported' AS location")
    |>.push " FROM pg_catalog.pg_tablespace n WHERE true"
    |>.named p "n.spcname"
    |>.push " ORDER BY 1"

end CatalogShell.Listing
