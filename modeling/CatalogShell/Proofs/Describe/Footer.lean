import CatalogShell.Proofs.Describe.Parts
import CatalogShell.Proofs.Session.Memoryless

/-!
# Where sections stand

`Footer.Suits` says which sections the footer of a relation may have, from the facts about the
relation and the form of the description. `footer_of_describe_suits`: in every report each section
stands only where it applies, and no heading is shown twice.

Two pairs of sections share a heading, a list and the count that stands for it. The headings are
those of `Footer.displayOrder` as long as no pair is shown as a whole (`headings_sublist`).
-/

namespace CatalogShell

namespace Footer

open scoped List

/-! ## Headings -/

/-- All headings, in the order of display. -/
def displayOrder : List String := [
  "Index", "Owned by", "View definition", "Partition of", "Partition constraint", "Partition key",
  "Indexes", "Check constraints", "Foreign-key constraints", "Referenced by", "Rules",
  "Disabled rules", "Rules firing always", "Rules firing on replica only", "Triggers",
  "Disabled triggers", "Triggers firing always", "Triggers firing on replica only", "Server",
  "FDW options", "Inherits", "Partitions", "Child tables", "Typed table of type", "Options"]

theorem listBlock_append_sublist {heading : String} {lines : List String} {blocks : List Block}
    {order : List String} (h : blocks.map Block.heading <+ order) :
    (listBlock heading lines ++ blocks).map Block.heading <+ heading :: order := by
  unfold listBlock
  split
  · exact h.cons heading
  · exact h.cons_cons heading

/-- A list and a text that share a heading, if only one of them is shown. -/
theorem pair_append_sublist {heading : String} {lines : List String} {text : Option String}
    {blocks : List Block} {order : List String} (hone : lines = [] ∨ text = none)
    (h : blocks.map Block.heading <+ order) :
    (listBlock heading lines ++ (textBlock heading text ++ blocks)).map Block.heading <+
      heading :: order := by
  obtain rfl | rfl := hone
  · change (textBlock heading text ++ blocks).map Block.heading <+ heading :: order
    exact listBlock_append_sublist h
  · exact listBlock_append_sublist h

theorem headings_sublist {f : Footer} (hp : f.partitions = [] ∨ f.partitionsSummary = none)
    (hc : f.childTables = [] ∨ f.childTablesSummary = none) : f.headings <+ displayOrder := by
  unfold headings blocks
  simp only [firingBlocks, List.append_assoc]
  -- One step for each heading; the lines of `textBlock` are those of a list of at most one text.
  refine
    listBlock_append_sublist <| listBlock_append_sublist <| listBlock_append_sublist <|
    listBlock_append_sublist <| listBlock_append_sublist <| listBlock_append_sublist <|
    listBlock_append_sublist <| listBlock_append_sublist <| listBlock_append_sublist <|
    listBlock_append_sublist <| listBlock_append_sublist <| listBlock_append_sublist <|
    listBlock_append_sublist <| listBlock_append_sublist <| listBlock_append_sublist <|
    listBlock_append_sublist <| listBlock_append_sublist <| listBlock_append_sublist <|
    listBlock_append_sublist <| listBlock_append_sublist <| listBlock_append_sublist <|
    pair_append_sublist hp <| pair_append_sublist hc <| listBlock_append_sublist ?_
  rw [← List.append_nil (textBlock _ _)]
  exact listBlock_append_sublist (List.Sublist.refl [])

/-! ## Sections -/

/-- Which sections the footer of a relation may have. -/
structure Suits (info : TableInfo) (verbose : Bool) (f : Footer) : Prop where
  /-- No heading is shown twice. -/
  headings : f.headings.Nodup
  /-- Partitions are listed or counted. -/
  onePartitions : f.partitions = [] ∨ f.partitionsSummary = none
  /-- Child tables are listed or counted. -/
  oneChildTables : f.childTables = [] ∨ f.childTablesSummary = none
  /-- Each table that the relation is a partition of has a constraint. -/
  partitionConstraints : f.partitionOf.length = f.partitionConstraints.length
  indexSummary : f.indexSummary.isSome ↔ info.kind ∈ [.index, .partitionedIndex]
  ownedBy : f.ownedBy ≠ none → info.kind = .sequence
  viewDefinition : f.viewDefinition ≠ none →
    verbose = true ∧ info.kind ∈ [.view, .materializedView]
  indexes : f.indexes ≠ [] → info.planFacts.isBase ∧ info.hasIndex
  checkConstraints : f.checkConstraints ≠ [] → info.planFacts.isBase ∧ 0 < info.checks
  foreignKeys : f.foreignKeys ≠ [] → info.planFacts.isBase ∧ info.hasTriggers
  referencedBy : f.referencedBy ≠ [] → info.planFacts.isBase ∧ info.hasTriggers
  rules : f.rules ≠ {} →
    info.planFacts.isBase ∧ info.hasRules ∧ info.kind ≠ .materializedView
  partitionOf : f.partitionOf ≠ [] → info.planFacts.isBase ∧ info.isPartition
  partitionKey : f.partitionKey ≠ none → info.kind = .partitionedTable
  partitions : f.partitions ≠ [] ∨ f.partitionsSummary ≠ none → info.kind = .partitionedTable
  triggers : f.triggers ≠ {} → info.hasTriggers
  server : f.server ≠ none → info.kind = .foreignTable
  fdwOptions : f.fdwOptions ≠ none → info.kind = .foreignTable
  inherits : f.inherits ≠ [] → info.planFacts.isFamily
  childTables : f.childTables ≠ [] ∨ f.childTablesSummary ≠ none → info.planFacts.isFamily
  typedTableOf : f.typedTableOf ≠ none →
    info.kind ∈ [.table, .materializedView, .foreignTable]
  options : f.options ≠ none → verbose = true

end Footer

namespace Section

open Lookup (Gives gives_bind gives_pure)

variable {R : Query → Answer → Prop} {info : TableInfo} {schema : String} {verbose : Bool}

theorem applies_of_gives_onlyIf {α : Type} {applies : Bool} {otherwise a : α} {x : Lookup α}
    (h : Gives R (onlyIf applies otherwise x) a) (ha : a ≠ otherwise) : applies = true := by
  rw [gives_onlyIf] at h
  cases applies with
  | true => rfl
  | false => exact absurd h ha

theorem isSome_of_gives_indexSummary {oid : Oid} {summary : Option String}
    (h : Gives R (indexSummary oid schema) summary) : summary.isSome := by
  simp only [indexSummary, gives_bind, gives_pure] at h
  obtain ⟨row, -, facts, -, rfl⟩ := h
  rfl

theorem Parts.onePartitions (p : Parts) (info : TableInfo) (verbose : Bool)
    (definition : Option String) :
    (p.assemble info verbose definition).partitions = [] ∨
      (p.assemble info verbose definition).partitionsSummary = none := by
  cases verbose <;> simp [assemble]

theorem Parts.oneChildTables (p : Parts) (info : TableInfo) (verbose : Bool)
    (definition : Option String) :
    (p.assemble info verbose definition).childTables = [] ∨
      (p.assemble info verbose definition).childTablesSummary = none := by
  cases verbose <;> simp [assemble]

/-- A footer that is made of parts that were asked for has sections only where they apply. -/
theorem suits_assemble {p : Parts} {definition : Option String}
    (hd : Gives R (onlyIf (info.kind.isView && verbose) none (viewDefinition info.oid)) definition)
    (hp : Gives R (gather info schema) p) :
    (p.assemble info verbose definition).Suits info verbose := by
  have hone := p.onePartitions info verbose definition
  have honeChild := p.oneChildTables info verbose definition
  have hheadings := (Footer.headings_sublist hone honeChild).nodup (by decide)
  unfold gather at hp
  dsimp only at hp
  simp only [PlanFacts.isBase_planFacts info, PlanFacts.isFamily_planFacts info, gives_bind,
    gives_pure] at hp
  obtain ⟨indexSummary, h1, ownedBy, h2, indexes, h3, checkConstraints, h4, foreignKeys, h5,
    referencedBy, h6, rules, h7, partitionOf, h8, partitionKey, h9, partitions, h10, triggers, h11,
    server, h12, inherits, h13, children, h14, rfl⟩ := hp
  have hsummary : indexSummary.isSome = info.kind.isIndex := by
    rw [gives_onlyIf] at h1
    split at h1
    · next hi => rw [hi, isSome_of_gives_indexSummary h1]
    · next hi => simp [h1, hi]
  have hserver (ha : server ≠ none) : info.kind = .foreignTable := by
    simpa using applies_of_gives_onlyIf h12 ha
  exact {
    headings := hheadings
    onePartitions := hone
    oneChildTables := honeChild
    partitionConstraints := by simp [Parts.assemble]
    indexSummary := by
      simp [Parts.assemble, hsummary, PlanFacts.takes_indexFooter info verbose, PlanFacts.takes,
        TableInfo.planFacts]
    ownedBy := fun ha => by simpa using applies_of_gives_onlyIf h2 ha
    viewDefinition := fun ha => by
      have happlies := applies_of_gives_onlyIf hd ha
      rw [PlanFacts.takes_viewDefinition info verbose] at happlies
      simpa [PlanFacts.takes, TableInfo.planFacts] using happlies
    indexes := fun ha => by simpa using applies_of_gives_onlyIf h3 ha
    checkConstraints := fun ha => by simpa using applies_of_gives_onlyIf h4 ha
    foreignKeys := fun ha => by simpa using applies_of_gives_onlyIf h5 ha
    referencedBy := fun ha => by simpa using applies_of_gives_onlyIf h6 ha
    rules := fun ha => by simpa [and_assoc] using applies_of_gives_onlyIf h7 ha
    partitionOf := fun ha => by
      simpa using applies_of_gives_onlyIf h8 fun h => ha (by simp [Parts.assemble, h])
    partitionKey := fun ha => by simpa using applies_of_gives_onlyIf h9 ha
    partitions := by
      rintro (ha | ha)
      · simpa using applies_of_gives_onlyIf h10 fun h => ha (by simp [Parts.assemble, h])
      · have hcounts : info.kind = .partitionedTable ∧ verbose = false := by
          simpa [Parts.assemble] using ha
        exact hcounts.1
    triggers := applies_of_gives_onlyIf h11
    server := fun ha => hserver fun h => ha (by simp [Parts.assemble, h])
    fdwOptions := fun ha => hserver fun h => ha (by simp [Parts.assemble, h])
    inherits := applies_of_gives_onlyIf h13
    childTables := fun ha => by
      refine applies_of_gives_onlyIf h14 fun h => ?_
      simp [Parts.assemble, h] at ha
    typedTableOf := fun ha => by
      revert ha
      simp only [Parts.assemble]
      cases info.kind <;> simp [RelationKind.showsInheritance]
    options := fun ha => by
      cases verbose with
      | true => rfl
      | false => exact absurd rfl ha }

end Section

/-! ## Reports -/

namespace ObjectRef

open Lookup (Gives)

variable {σ : Type} {db : Database σ} {limit : Option Nat} {s : Session σ} {o : ObjectRef}
  {verbose : Bool} {r : Report}

/-- A description that succeeds has learned the facts about the relation, and has gone on with
them. -/
theorem exists_info_of_run (h : (s.run db limit (o.describe verbose).run).result = .ok r) :
    ∃ info, (s.run db limit (TableInfo.lookup o.oid).run).result = .ok info ∧
      Gives (Answered (s.exchanges db limit (o.describe verbose).run))
        (o.describeFrom verbose info) r := by
  rw [describe_eq, Session.run_bind] at h
  unfold Session.thenRun at h
  split at h
  · cases h
  · next info hinfo =>
    have hfrom := (asks_describeFrom verbose o info (TableInfo.oid_of_run hinfo)).givesUp
    refine ⟨info, hinfo, (hfrom.mayReturn_run db limit h).mono fun q answer => ?_⟩
    rintro ⟨y, hy, hq⟩
    rw [describe_eq, Session.exchanges_bind hinfo]
    exact ⟨y, List.mem_append_right _ hy, hq⟩

/-- In every report that a description returns, each section stands only where it applies to the
relation that the database told about, and no heading is shown twice. -/
theorem footer_of_describe_suits (db : Database σ) (limit : Option Nat) (s : Session σ)
    (o : ObjectRef) (verbose : Bool) {r : Report}
    (h : (s.run db limit (o.describe verbose).run).result = .ok r) :
    ∃ info, (s.run db limit (TableInfo.lookup o.oid).run).result = .ok info ∧
      r.kind = info.kind ∧ r.footer.Suits info verbose := by
  obtain ⟨info, hinfo, hr⟩ := exists_info_of_run h
  obtain ⟨rows, footer, -, hfooter, rfl⟩ := gives_describeFrom.1 hr
  obtain ⟨definition, parts, hdefinition, hparts, rfl⟩ := Section.gives_footer.1 hfooter
  exact ⟨info, hinfo, rfl, Section.suits_assemble hdefinition hparts⟩

end ObjectRef

/-- A database with a typed foreign table that has a check constraint, a disabled trigger and two
child tables. -/
def Script.readings : Script := .ofRows [
  ("describe.table_info", [⟨[.integer 1, .text "f", .boolean false, .boolean false, .boolean true,
    .null, .null, .text "reading", .text "p", .boolean false]⟩]),
  ("describe.columns", [⟨[.text "n", .text "integer", .null, .boolean true, .null, .text "",
    .text "", .null, .null, .text "(column 'n')", .null, .null, .null]⟩]),
  ("describe.check_constraints", [⟨[.text "positive", .text "CHECK (n > 0)"]⟩]),
  ("describe.triggers", [⟨[.text "audit",
    .text "CREATE TRIGGER audit AFTER INSERT ON readings", .text "D"]⟩]),
  ("describe.foreign_table", [⟨[.text "files", .text "format 'csv'"]⟩]),
  ("describe.child_tables", [⟨[.text "old"]⟩, ⟨[.null]⟩, ⟨[.text "new"]⟩])]

/-- The plain description of the foreign table. -/
def Report.readings : Report where
  schema := "public"
  name := "readings"
  kind := .foreignTable
  headers := ["Column", "Type", "Modifiers", "FDW Options"]
  rows := [["n", "integer", "not null", "(column 'n')"]]
  footer := {
    checkConstraints := ["\"positive\" CHECK (n > 0)"]
    triggers := { disabled := ["audit AFTER INSERT ON readings"] }
    childTablesSummary := some "Number of child tables: 2 (Use \\d+ to list them.)"
    typedTableOf := some "reading"
    server := some "files"
    fdwOptions := some "(format 'csv')" }

theorem ObjectRef.footer_of_describe_suits_readings :
    let o : ObjectRef := ⟨7, "public", "readings", .foreignTable⟩
    let s : Session Script := ⟨.readings, false⟩
    (s.run Script.database none (o.describe false).run).result = .ok .readings ∧
      ∃ info, (s.run Script.database none (TableInfo.lookup o.oid).run).result = .ok info ∧
        Report.readings.kind = info.kind ∧ Report.readings.footer.Suits info false :=
  ⟨rfl, footer_of_describe_suits Script.database none ⟨.readings, false⟩
    ⟨7, "public", "readings", .foreignTable⟩ false rfl⟩

end CatalogShell
