import CatalogShell.Proofs.Describe.Plan
import CatalogShell.Proofs.Inquiry.MayReturn

/-!
# The parts of a description

A description is taken apart into what its queries give and how that is put together.

* `Section.gather`: the sections of a footer that the plain and the verbose form both ask for.
  `Section.Parts.assemble` makes the footer of either form from them; `Section.footer_eq`: this is
  the footer.
* `Section.gives_onlyIf`: a section that does not apply is left at its default.
* `ObjectRef.gives_describe`: what a description that succeeds is made of. Each row has a cell for
  each header, so that no row is refused (`Column.foldlM_push`).
-/

namespace CatalogShell

/-! ## Footers -/

namespace Section

/-- What the queries for the sections of a footer give; the definition of a view, which only the
verbose form asks for, is not among them. -/
structure Parts where
  indexSummary : Option String
  ownedBy : Option String
  indexes : List String
  checkConstraints : List String
  foreignKeys : List String
  referencedBy : List String
  rules : FiringGroups
  partitionOf : List (String × String)
  partitionKey : Option String
  partitions : List String
  triggers : FiringGroups
  server : Option (String × Option String)
  inherits : List String
  children : List String

/-- Asks for the parts that apply. -/
def gather (info : TableInfo) (schema : String) : Lookup Parts := do
  let oid := info.oid
  let kind := info.kind
  let base := kind.isBase
  let family := kind.showsInheritance && !info.isPartition
  let indexSummary ← onlyIf kind.isIndex none (indexSummary oid schema)
  let ownedBy ← onlyIf (kind = .sequence) none (firstText (SectionQuery.sequenceOwner oid))
  let indexes ← onlyIf (base && info.hasIndex) [] (indexes oid)
  let checkConstraints ← onlyIf (base && info.checks > 0) []
    (namedDefinitions (SectionQuery.checkConstraints oid))
  let foreignKeys ← onlyIf (base && info.hasTriggers) []
    (namedDefinitions (SectionQuery.foreignKeys oid))
  let referencedBy ← onlyIf (base && info.hasTriggers) [] (referencedBy oid)
  let rules ← onlyIf (base && info.hasRules && kind ≠ .materializedView) {}
    (firingGroups (SectionQuery.rules oid) id)
  let partitionOf ← onlyIf (base && info.isPartition) [] (partitionOf oid)
  let partitionKey ← onlyIf (kind = .partitionedTable) none
    (firstText (SectionQuery.partitionKey oid))
  let partitions ← onlyIf (kind = .partitionedTable) [] (texts (SectionQuery.partitions oid))
  let triggers ← onlyIf info.hasTriggers {}
    (firingGroups (SectionQuery.triggers oid) triggerBody)
  let server ← onlyIf (kind = .foreignTable) none (foreignServer oid)
  let inherits ← onlyIf family [] (texts (SectionQuery.inherits oid))
  let children ← onlyIf family [] (texts (SectionQuery.childTables oid))
  return {
    indexSummary, ownedBy, indexes, checkConstraints, foreignKeys, referencedBy, rules, partitionOf
    partitionKey, partitions, triggers, server, inherits, children }

/-- The footer that is made of the parts and the definition of a view. -/
def Parts.assemble (p : Parts) (info : TableInfo) (verbose : Bool)
    (viewDefinition : Option String) : Footer where
  indexSummary := p.indexSummary
  indexes := p.indexes
  checkConstraints := p.checkConstraints
  foreignKeys := p.foreignKeys
  referencedBy := p.referencedBy
  viewDefinition := viewDefinition
  rules := p.rules
  triggers := p.triggers
  partitionOf := p.partitionOf.map Prod.fst
  partitionConstraints := p.partitionOf.map Prod.snd
  partitionKey := p.partitionKey
  partitions := if verbose then p.partitions else []
  partitionsSummary :=
    if info.kind = .partitionedTable ∧ !verbose then
      some (countLine "partitions" p.partitions.length)
    else none
  inherits := p.inherits
  childTables := if verbose then p.children else []
  childTablesSummary :=
    if !verbose ∧ !p.children.isEmpty then some (countLine "child tables" p.children.length)
    else none
  typedTableOf := if info.kind.showsInheritance then info.ofType else none
  options := if verbose then info.options.filter (· ≠ "") else none
  server := p.server.map Prod.fst
  fdwOptions := p.server.bind Prod.snd
  ownedBy := p.ownedBy

theorem footer_eq (info : TableInfo) (schema : String) (verbose : Bool) :
    footer info schema verbose = do
      let definition ← onlyIf (info.kind.isView && verbose) none (viewDefinition info.oid)
      let parts ← gather info schema
      return parts.assemble info verbose definition := by
  simp only [gather, bind_assoc, pure_bind]
  rfl

open Lookup (Gives gives_bind gives_pure)

variable {α : Type} {R : Query → Answer → Prop}

/-- A section that does not apply is left at its default. -/
theorem gives_onlyIf {applies : Bool} {otherwise a : α} {x : Lookup α} :
    Gives R (onlyIf applies otherwise x) a ↔
      if applies then Gives R x a else a = otherwise := by
  cases applies <;> simp [onlyIf]

theorem gives_footer {info : TableInfo} {schema : String} {verbose : Bool} {f : Footer} :
    Gives R (footer info schema verbose) f ↔
      ∃ definition parts,
        Gives R (onlyIf (info.kind.isView && verbose) none (viewDefinition info.oid)) definition ∧
        Gives R (gather info schema) parts ∧ f = parts.assemble info verbose definition := by
  rw [footer_eq]
  simp only [gives_bind, gives_pure]
  constructor
  · rintro ⟨definition, hd, parts, hp, rfl⟩
    exact ⟨definition, parts, hd, hp, rfl⟩
  · rintro ⟨definition, parts, hd, hp, rfl⟩
    exact ⟨definition, hd, parts, hp, rfl⟩

end Section

/-! ## Columns -/

namespace Column

open Lookup (Gives gives_bind gives_pure gives_ask gives_lift gives_askFirst?)

theorem label_query (oid : Oid) (kind : RelationKind) (verbose : Bool) :
    (query oid kind verbose).label = label :=
  DescribeStep.label_query ⟨oid, "", "", kind⟩ kind verbose .columns

variable {R : Query → Answer → Prop}

/-- The state of a sequence. -/
theorem gives_lookupState {schema name : String} {state : List Value} :
    Gives R (lookupState .sequence schema name) state ↔
      ∃ t, R (sequenceState schema name) (.ok t) ∧ state = t.first?.elim [] Row.values := by
  simp only [lookupState, ↓reduceIte, gives_bind, gives_askFirst?, gives_pure]
  constructor
  · rintro ⟨_, ⟨t, ht, rfl⟩, hstate⟩
    exact ⟨t, ht, hstate⟩
  · rintro ⟨t, ht, hstate⟩
    exact ⟨_, ⟨t, ht, rfl⟩, hstate⟩

theorem gives_lookupRows {info : TableInfo} {schema name : String} {verbose : Bool}
    {rows : List (List String)} :
    Gives R (lookupRows info schema name verbose) rows ↔
      ∃ answer state columns, R (query info.oid info.kind verbose) (.ok answer) ∧
        Gives R (lookupState info.kind schema name) state ∧ answer.rows.mapM ofRow = .ok columns ∧
        rows = columns.mapIdx fun k c => c.cells info.kind verbose state[k]? := by
  simp only [lookupRows, gives_bind, gives_ask, gives_lift, gives_pure]
  constructor
  · rintro ⟨answer, ha, state, hs, columns, hc, rfl⟩
    exact ⟨answer, state, columns, ha, hs, hc, rfl⟩
  · rintro ⟨answer, state, columns, ha, hs, hc, rfl⟩
    exact ⟨answer, ha, state, hs, columns, hc, rfl⟩

/-- There is a cell for each header, whatever the kind. -/
theorem length_cells (kind : RelationKind) (verbose : Bool) (c : Column) (state : Option Value) :
    (c.cells kind verbose state).length = (columnHeaders kind verbose).length := by
  unfold cells columnHeaders
  simp only [List.length_append]
  congr 1
  · congr 1
    · split <;> rfl
    · cases kind <;> rfl
  · split
    · simp only [List.length_append, apply_ite List.length]
      rfl
    · rfl

theorem length_of_mem_rows {kind : RelationKind} {verbose : Bool} {columns : List Column}
    {state : Nat → Option Value} {row : List String}
    (h : row ∈ columns.mapIdx fun k c => c.cells kind verbose (state k)) :
    row.length = (columnHeaders kind verbose).length := by
  obtain ⟨k, hk, rfl⟩ := List.mem_mapIdx.1 h
  exact length_cells kind verbose _ _

/-- Rows with a cell for each header are all added. -/
theorem foldlM_push {rows : List (List String)} {r : Report}
    (h : ∀ row ∈ rows, row.length = r.headers.length) :
    rows.foldlM Report.push r = .ok { r with rows := r.rows ++ rows } := by
  induction rows generalizing r with
  | nil => simp [pure, Except.pure]
  | cons row rows ih =>
    simp only [List.forall_mem_cons] at h
    have hpush : r.push row = .ok { r with rows := r.rows ++ [row] } := if_pos h.1
    rw [List.foldlM_cons, hpush]
    have hrest := @ih { r with rows := r.rows ++ [row] } h.2
    simpa [bind, Except.bind] using hrest

end Column

/-! ## Descriptions -/

namespace ObjectRef

open Lookup (Gives gives_bind gives_pure gives_lift)

variable {R : Query → Answer → Prop}

/-- What a description that succeeds is made of. -/
theorem gives_describeFrom {verbose : Bool} {o : ObjectRef} {info : TableInfo} {r : Report} :
    Gives R (o.describeFrom verbose info) r ↔
      ∃ rows footer, Gives R (Column.lookupRows info o.schema o.name verbose) rows ∧
        Gives R (Section.footer info o.schema verbose) footer ∧
        r = ⟨o.schema, o.name, info.kind, columnHeaders info.kind verbose, rows, footer⟩ := by
  simp only [describeFrom, gives_bind, gives_lift, gives_pure]
  constructor
  · rintro ⟨rows, hrows, report, hpush, footer, hfooter, rfl⟩
    obtain ⟨answer, state, columns, -, -, -, rfl⟩ := Column.gives_lookupRows.1 hrows
    rw [Column.foldlM_push fun row hrow => Column.length_of_mem_rows hrow] at hpush
    cases hpush
    exact ⟨_, footer, hrows, hfooter, rfl⟩
  · rintro ⟨rows, footer, hrows, hfooter, rfl⟩
    obtain ⟨answer, state, columns, -, -, -, rfl⟩ := Column.gives_lookupRows.1 hrows
    exact ⟨_, hrows, _, Column.foldlM_push fun row hrow => Column.length_of_mem_rows hrow, footer,
      hfooter, rfl⟩

theorem gives_describe {verbose : Bool} {o : ObjectRef} {r : Report} :
    Gives R (o.describe verbose) r ↔
      ∃ info, Gives R (TableInfo.lookup o.oid) info ∧ Gives R (o.describeFrom verbose info) r := by
  rw [describe_eq, gives_bind]

end ObjectRef

end CatalogShell
