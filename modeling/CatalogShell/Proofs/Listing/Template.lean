import CatalogShell.Catalog.Resolve
import CatalogShell.Listing.Cluster
import CatalogShell.Listing.Extensions
import CatalogShell.Listing.Functions
import CatalogShell.Listing.Relations
import CatalogShell.Listing.Schemas
import CatalogShell.Listing.Types
import CatalogShell.Proofs.Listing.Binds
import CatalogShell.Proofs.Listing.SameText

/-!
# Listings keep patterns out of their text

`Template` has all queries that are made from a pattern. The text of each depends only on which
filters the pattern has, and the filters themselves are bound as values, each to a placeholder
that is compared with the columns it is meant for (`Template.binds`, `Template.query_safe`).
-/

namespace CatalogShell

/-- The queries that are made from a pattern. -/
inductive Template where
  | resolve (kinds : List RelationKind)
  | relations (kinds : List RelationKind)
  | privileges
  | functions
  | dataTypes
  | domains
  | databases
  | schemas
  | roles
  | tablespaces (location : Bool)
  | extensions
  | defaultPrivileges

namespace Template

/-- The query of a template for a pattern. -/
def query : Template → Bool → Pattern → Query
  | resolve kinds, _, p => Resolve.query p kinds
  | relations kinds, verbose, p => Listing.relations p verbose kinds
  | privileges, _, p => Listing.privileges p
  | functions, verbose, p => Listing.functions p verbose
  | dataTypes, verbose, p => Listing.dataTypes p verbose
  | domains, verbose, p => Listing.domains p verbose
  | databases, verbose, p => Listing.databases p verbose
  | schemas, verbose, p => Listing.schemas p verbose
  | roles, verbose, p => Listing.roles p verbose
  | tablespaces location, _, p => Listing.tablespaces p location
  | extensions, _, p => Listing.extensions p
  | defaultPrivileges, _, p => Listing.defaultPrivileges p

/-- The kinds that a template restricts relations to. Resolving restricts nothing for no kinds. -/
def kinds? : Template → Option (List RelationKind)
  | resolve kinds => if kinds.isEmpty then none else some kinds
  | relations kinds => some kinds
  | _ => none

/-- The template restricts schemas by the pattern's schema filter. -/
def filtersSchema : Template → Bool
  | resolve _ | relations _ | privileges | functions | dataTypes | domains => true
  | _ => false

/-- The names of an entry, as the template writes them. -/
def nameColumns : Template → List String
  | resolve _ | relations _ | privileges => ["c.relname"]
  | functions => ["p.proname"]
  | dataTypes => ["t.typname", "pg_catalog.format_type(t.oid, NULL)"]
  | domains => ["t.typname"]
  | databases => ["d.datname"]
  | schemas => ["n.nspname"]
  | roles => ["r.rolname"]
  | tablespaces _ => ["n.spcname"]
  | extensions => ["e.extname"]
  | defaultPrivileges => ["n.nspname", "pg_catalog.pg_get_userbyid(d.defaclrole)"]

/-- What the values of each role are compared with. -/
def columns (t : Template) : Role → List String
  | .kinds => ["c.relkind::text"]
  | .schema => ["n.nspname"]
  | .name => t.nameColumns

/-- The values that a template binds, in their order. -/
def bound (t : Template) (p : Pattern) : List (Role × Value) :=
  t.kinds?.toList.map (fun kinds =>
    (.kinds, .textArray ((kinds.map RelationKind.code).map Char.toString))) ++
    (if t.filtersSchema then p.schemaBound else []) ++ p.nameBound

/-! ## Bound values

Each proof goes through the steps of its query. What it leaves is that the texts of these steps
have no dollar signs. -/

variable (p : Pattern) (verbose : Bool)

open Query (Binds)

theorem binds_resolve (kinds : List RelationKind) :
    Binds (resolve kinds).columns ((resolve kinds).bound p) (Resolve.query p kinds) := by
  have hlead : Leads (resolve kinds).columns .kinds " AND c.relkind::text = ANY(".toList :=
    leads_ofList (show " AND " ∈ openings by decide) (.head _) rfl (by decide)
  cases kinds with
  | nil =>
    refine Binds.nil |>.start ?_
      |>.inSchema (.head _) ?_ ?_ (closes_ofList (by decide))
      |>.pushIf _ ?_ (.inr (closes_append (closes_ofList (by decide)) _))
      |>.named (.head _) ?_
      |>.pushClosing (by decide) (by decide)
    all_goals
      try simp only [dollar_notMem_append]
      and_intros <;> exact dollar_notMem_ofList (by decide)
  | cons kind kinds =>
    refine Binds.nil |>.start ?_
      |>.ofKinds _ ?_ (.inl rfl) hlead
      |>.inSchema (.head _) ?_ ?_ (closes_ofList (by decide))
      |>.pushIf _ ?_ (.inr (closes_append (closes_ofList (by decide)) _))
      |>.named (.head _) ?_
      |>.pushClosing (by decide) (by decide)
    all_goals
      try simp only [dollar_notMem_append]
      and_intros <;> exact dollar_notMem_ofList (by decide)

theorem binds_relations (kinds : List RelationKind) :
    Binds (relations kinds).columns ((relations kinds).bound p)
      (Listing.relations p verbose kinds) := by
  have hlead : Leads (relations kinds).columns .kinds " WHERE c.relkind::text = ANY(".toList :=
    leads_ofList (show " WHERE " ∈ openings by decide) (.head _) rfl (by decide)
  refine Binds.nil |>.start ?_ |>.startIf verbose ?_ |>.start ?_
    |>.ofKinds _ ?_ (.inl rfl) hlead
    |>.inSchema (.head _) ?_ ?_ (closes_append (closes_ofList (by decide)) _)
    |>.named (.head _) ?_
    |>.pushClosing (by decide) (by decide)
  all_goals
    try simp only [dollar_notMem_append]
    and_intros <;> exact dollar_notMem_ofList (by decide)

theorem binds_privileges :
    Binds privileges.columns (privileges.bound p) (Listing.privileges p) := by
  refine Binds.nil |>.start ?_
    |>.inSchema (.head _) ?_ ?_ (closes_ofList (by decide))
    |>.named (.head _) ?_
    |>.pushClosing (by decide) (by decide)
  all_goals
    try simp only [dollar_notMem_append]
    and_intros <;> exact dollar_notMem_ofList (by decide)

theorem binds_functions :
    Binds functions.columns (functions.bound p) (Listing.functions p verbose) := by
  refine Binds.nil |>.start ?_ |>.startIf verbose ?_ |>.start ?_ |>.startIf verbose ?_ |>.start ?_
    |>.inScope (.head _) ?_ ?_
    |>.named (.head _) ?_
    |>.pushClosing (by decide) (by decide)
  all_goals
    try simp only [dollar_notMem_append]
    and_intros <;> exact dollar_notMem_ofList (by decide)

theorem binds_domains :
    Binds domains.columns (domains.bound p) (Listing.domains p verbose) := by
  refine Binds.nil |>.start ?_ |>.startIf verbose ?_ |>.start ?_ |>.startIf verbose ?_ |>.start ?_
    |>.inScope (.head _) ?_ ?_
    |>.named (.head _) ?_
    |>.pushClosing (by decide) (by decide)
  all_goals
    try simp only [dollar_notMem_append]
    and_intros <;> exact dollar_notMem_ofList (by decide)

theorem binds_databases :
    Binds databases.columns (databases.bound p) (Listing.databases p verbose) := by
  refine Binds.nil |>.start ?_ |>.startIf verbose ?_ |>.start ?_ |>.startIf verbose ?_ |>.start ?_
    |>.named (.head _) ?_
    |>.pushClosing (by decide) (by decide)
  all_goals
    try simp only [dollar_notMem_append]
    and_intros <;> exact dollar_notMem_ofList (by decide)

theorem binds_schemas :
    Binds schemas.columns (schemas.bound p) (Listing.schemas p verbose) := by
  refine Binds.nil |>.start ?_ |>.startIf verbose ?_ |>.start ?_ |>.startIf p.isUnfiltered ?_
    |>.named (.head _) ?_
    |>.pushClosing (by decide) (by decide)
  all_goals
    try simp only [dollar_notMem_append]
    and_intros <;> exact dollar_notMem_ofList (by decide)

theorem binds_roles :
    Binds roles.columns (roles.bound p) (Listing.roles p verbose) := by
  refine Binds.nil |>.start ?_ |>.startIf verbose ?_ |>.start ?_
    |>.named (.head _) ?_
    |>.pushClosing (by decide) (by decide)
  all_goals
    try simp only [dollar_notMem_append]
    and_intros <;> exact dollar_notMem_ofList (by decide)

theorem binds_extensions :
    Binds extensions.columns (extensions.bound p) (Listing.extensions p) := by
  refine Binds.nil |>.start ?_ |>.named (.head _) ?_ |>.pushClosing (by decide) (by decide)
  all_goals
    try simp only [dollar_notMem_append]
    and_intros <;> exact dollar_notMem_ofList (by decide)

theorem binds_tablespaces (location : Bool) :
    Binds (tablespaces location).columns ((tablespaces location).bound p)
      (Listing.tablespaces p location) := by
  refine Binds.nil |>.start ?_ |>.start (dollar_notMem_ite ?_ ?_) |>.start ?_
    |>.named (.head _) ?_
    |>.pushClosing (by decide) (by decide)
  all_goals exact dollar_notMem_ofList (by decide)

theorem binds_dataTypes :
    Binds dataTypes.columns (dataTypes.bound p) (Listing.dataTypes p verbose) := by
  have hinternal : Leads dataTypes.columns .name " AND (t.typname OPERATOR(pg_catalog.~) ".toList :=
    leads_ofList (show "(" ∈ openings by decide) (.head _) rfl (by decide)
  have hformatted : Leads dataTypes.columns .name
      " OR pg_catalog.format_type(t.oid, NULL) OPERATOR(pg_catalog.~) ".toList :=
    leads_ofList (show " OR " ∈ openings by decide) (.tail _ (.head _)) rfl (by decide)
  refine Binds.nil |>.start ?_ |>.start (dollar_notMem_ite ?_ ?_) |>.start ?_
    |>.inScope (.head _) ?_ ?_
    |>.ofName (fun filter h => h.bindTwice _ ⟨?_, ?_, ?_⟩
      ⟨.inr (closes_ofList (by decide)), closes_ofList (by decide), closes_ofList (by decide)⟩
      ⟨hinternal, hformatted⟩)
    |>.pushClosing (by decide) (by decide)
  all_goals
    try simp only [dollar_notMem_append]
    and_intros <;> exact dollar_notMem_ofList (by decide)

theorem binds_defaultPrivileges :
    Binds defaultPrivileges.columns (defaultPrivileges.bound p) (Listing.defaultPrivileges p) := by
  have hschema : Leads defaultPrivileges.columns .name
      " WHERE (n.nspname OPERATOR(pg_catalog.~) ".toList :=
    leads_ofList (show "(" ∈ openings by decide) (.head _) rfl (by decide)
  have howner : Leads defaultPrivileges.columns .name
      (" COLLATE pg_catalog.default OR pg_catalog.pg_get_userbyid(d.defaclrole) " ++
        "OPERATOR(pg_catalog.~) ").toList :=
    leads_append_ofList (show " OR " ∈ openings by decide) (.tail _ (.head _)) rfl (by decide)
  refine Binds.nil |>.start ?_
    |>.ofName (fun filter h => h.bindTwice _ ⟨?_, ?_, ?_⟩
      ⟨.inl rfl, closes_append (closes_ofList (by decide)) _, closes_ofList (by decide)⟩
      ⟨hschema, howner⟩)
    |>.pushClosing (by decide) (by decide)
  all_goals
    try simp only [dollar_notMem_append]
    and_intros <;> exact dollar_notMem_ofList (by decide)

/-- The placeholders of each template stand for the values that it is meant to bind. -/
theorem binds (t : Template) : Binds t.columns (t.bound p) (t.query verbose p) := by
  cases t with
  | resolve kinds => exact binds_resolve p kinds
  | relations kinds => exact binds_relations p verbose kinds
  | privileges => exact binds_privileges p
  | functions => exact binds_functions p verbose
  | dataTypes => exact binds_dataTypes p verbose
  | domains => exact binds_domains p verbose
  | databases => exact binds_databases p verbose
  | schemas => exact binds_schemas p verbose
  | roles => exact binds_roles p verbose
  | tablespaces location => exact binds_tablespaces p location
  | extensions => exact binds_extensions p
  | defaultPrivileges => exact binds_defaultPrivileges p

/-! ## Text -/

open Query (SameText)

/-- The text of a query depends only on which filters the pattern has. -/
theorem sameText {p p' : Pattern} (t : Template) (h : p.SameFilters p') :
    SameText (t.query verbose p) (t.query verbose p') := by
  cases t with
  | resolve kinds =>
    exact ((((SameText.refl _).inSchema h _ _).pushIf h.isUnfiltered _).named h _).push _
  | relations kinds => exact (((SameText.refl _).inSchema h _ _).named h _).push _
  | privileges => exact (((SameText.refl _).inSchema h _ _).named h _).push _
  | functions => exact (((SameText.refl _).inScope h _ _).named h _).push _
  | dataTypes =>
    refine (((SameText.refl _).inScope h _ _).ofName h fun filter filter' h => ?_).push _
    simp only [Query.hold, h.next]
    exact (h.hold (.text filter) (.text filter')).append _
  | domains => exact (((SameText.refl _).inScope h _ _).named h _).push _
  | databases => exact ((SameText.refl _).named h _).push _
  | schemas => exact (((SameText.refl _).pushIf h.isUnfiltered _).named h _).push _
  | roles => exact ((SameText.refl _).named h _).push _
  | tablespaces location => exact ((SameText.refl _).named h _).push _
  | extensions => exact ((SameText.refl _).named h _).push _
  | defaultPrivileges =>
    exact ((SameText.refl _).ofName h fun _ _ h => (h.hold _ _).append _).push _

/-! ## Patterns and text -/

/-- Patterns with the same filters give the same text; the filters are among the bound values;
the text has placeholders for all of these and no others; and each placeholder is compared with
the columns that its value is meant for. -/
theorem query_safe (t : Template) (verbose : Bool) (p : Pattern) :
    let q := t.query verbose p
    (∀ p' : Pattern, p'.SameFilters p → (t.query verbose p').sql = q.sql) ∧
    q.params = (t.bound p).map Prod.snd ∧
    (∀ k, (∃ before after, Mentions q.sql.toList k before after) ↔
      0 < k ∧ k ≤ q.params.length) ∧
    ∀ k before after, Mentions q.sql.toList k before after →
      ∃ role v, (t.bound p)[k - 1]? = some (role, v) ∧ Compared t.columns role before after := by
  intro q
  have hbinds : q.Binds t.columns (t.bound p) := t.binds p verbose
  obtain ⟨hnumbers, hcompared⟩ := hbinds.mentions
  exact ⟨fun p' h => (t.sameText verbose h).sql, hbinds.params, hnumbers, hcompared⟩

end Template

end CatalogShell
