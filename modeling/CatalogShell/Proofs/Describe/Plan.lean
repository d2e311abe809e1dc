import CatalogShell.Describe.Relation
import CatalogShell.Proofs.Inquiry.Asks
import CatalogShell.Proofs.Query.Build

/-!
# The plan of a description

Which queries a description takes is decided by its form, plain or verbose, and by six facts of
the table-info row (`PlanFacts`): the kind of the relation, and which of its parts it has.
`PlanFacts.plan` lists the steps in order.

`describe_follows_plan`: whatever the database does, the queries that a description sends are a
prefix of its plan, and all of it if the description succeeds. Nothing follows a table-info row
that cannot be read. No query of a description has the label of another.
-/

namespace CatalogShell

/-! ## Plans -/

/-- A query of a description. -/
inductive DescribeStep where
  | tableInfo
  | columns
  | sequenceState
  | viewDefinition
  | indexFooter
  | sequenceOwner
  | indexes
  | checkConstraints
  | foreignKeys
  | referencedBy
  | rules
  | partitionOf
  | partitionKey
  | partitions
  | triggers
  | foreignTable
  | inherits
  | childTables
deriving DecidableEq, Repr

namespace DescribeStep

/-- All steps, in the order in which they are taken. -/
def all : List DescribeStep := [
  tableInfo, columns, sequenceState, viewDefinition, indexFooter, sequenceOwner, indexes,
  checkConstraints, foreignKeys, referencedBy, rules, partitionOf, partitionKey, partitions,
  triggers, foreignTable, inherits, childTables]

/-- The label of a step's query. -/
def label : DescribeStep → String
  | tableInfo => "describe.table_info"
  | columns => "describe.columns"
  | sequenceState => "describe.sequence_state"
  | viewDefinition => "describe.view_definition"
  | indexFooter => "describe.index_footer"
  | sequenceOwner => "describe.sequence_owner"
  | indexes => "describe.indexes"
  | checkConstraints => "describe.check_constraints"
  | foreignKeys => "describe.foreign_keys"
  | referencedBy => "describe.referenced_by"
  | rules => "describe.rules"
  | partitionOf => "describe.partition_of"
  | partitionKey => "describe.partition_key"
  | partitions => "describe.partitions"
  | triggers => "describe.triggers"
  | foreignTable => "describe.foreign_table"
  | inherits => "describe.inherits"
  | childTables => "describe.child_tables"

/-- The query of a step in the description of an object of the given kind. -/
def query (o : ObjectRef) (kind : RelationKind) (verbose : Bool) : DescribeStep → Query
  | tableInfo => TableInfo.query o.oid
  | columns => Column.query o.oid kind verbose
  | sequenceState => Column.sequenceState o.schema o.name
  | viewDefinition => SectionQuery.viewDefinition o.oid
  | indexFooter => SectionQuery.indexFooter o.oid
  | sequenceOwner => SectionQuery.sequenceOwner o.oid
  | indexes => SectionQuery.indexes o.oid
  | checkConstraints => SectionQuery.checkConstraints o.oid
  | foreignKeys => SectionQuery.foreignKeys o.oid
  | referencedBy => SectionQuery.referencedBy o.oid
  | rules => SectionQuery.rules o.oid
  | partitionOf => SectionQuery.partitionOf o.oid
  | partitionKey => SectionQuery.partitionKey o.oid
  | partitions => SectionQuery.partitions o.oid
  | triggers => SectionQuery.triggers o.oid
  | foreignTable => SectionQuery.foreignTable o.oid
  | inherits => SectionQuery.inherits o.oid
  | childTables => SectionQuery.childTables o.oid

@[simp] theorem label_query (o : ObjectRef) (kind : RelationKind) (verbose : Bool)
    (step : DescribeStep) : (step.query o kind verbose).label = step.label := by
  cases step with
  | columns =>
    simp only [query, Column.query, apply_ite Query.label, Query.label_append, Query.label_push]
    simp [Query.hold, label, Column.label]
  | _ => rfl

end DescribeStep

/-- What a plan depends on, apart from the form of the description. -/
structure PlanFacts where
  kind : RelationKind
  hasIndex : Bool
  hasChecks : Bool
  hasTriggers : Bool
  hasRules : Bool
  isPartition : Bool
deriving DecidableEq, Repr

/-- What a plan depends on in the table-info row. -/
def TableInfo.planFacts (info : TableInfo) : PlanFacts where
  kind := info.kind
  hasIndex := info.hasIndex
  hasChecks := 0 < info.checks
  hasTriggers := info.hasTriggers
  hasRules := info.hasRules
  isPartition := info.isPartition

namespace PlanFacts

/-- Relations that may have indexes, constraints, rules and partitions of their own. -/
def isBase (f : PlanFacts) : Bool :=
  f.kind ∈ [.table, .partitionedTable, .materializedView, .foreignTable]

/-- Relations that are listed with their parents and children. -/
def isFamily (f : PlanFacts) : Bool :=
  f.kind ∈ [.table, .materializedView, .foreignTable] && !f.isPartition

/-- When a step is taken. -/
def takes (f : PlanFacts) (verbose : Bool) : DescribeStep → Bool
  | .tableInfo | .columns => true
  | .sequenceState | .sequenceOwner => f.kind = .sequence
  | .viewDefinition => verbose && f.kind ∈ [.view, .materializedView]
  | .indexFooter => f.kind ∈ [.index, .partitionedIndex]
  | .indexes => f.isBase && f.hasIndex
  | .checkConstraints => f.isBase && f.hasChecks
  | .foreignKeys | .referencedBy => f.isBase && f.hasTriggers
  | .rules => f.isBase && f.hasRules && f.kind ≠ .materializedView
  | .partitionOf => f.isBase && f.isPartition
  | .partitionKey | .partitions => f.kind = .partitionedTable
  | .triggers => f.hasTriggers
  | .foreignTable => f.kind = .foreignTable
  | .inherits | .childTables => f.isFamily

/-- The steps of a description, in order. -/
def plan (f : PlanFacts) (verbose : Bool) : List DescribeStep :=
  DescribeStep.all.filter (f.takes verbose)

theorem isBase_planFacts (info : TableInfo) : info.kind.isBase = info.planFacts.isBase := by
  obtain ⟨_, _, kind, _, _, _, _, _, _, _, _⟩ := info
  cases kind <;> rfl

theorem isFamily_planFacts (info : TableInfo) :
    (info.kind.showsInheritance && !info.isPartition) = info.planFacts.isFamily := by
  obtain ⟨_, _, kind, _, _, _, _, _, _, _, _⟩ := info
  cases kind <;> rfl

theorem takes_viewDefinition (info : TableInfo) (verbose : Bool) :
    (info.kind.isView && verbose) = info.planFacts.takes verbose .viewDefinition := by
  obtain ⟨_, _, kind, _, _, _, _, _, _, _, _⟩ := info
  cases kind <;> cases verbose <;> rfl

theorem takes_indexFooter (info : TableInfo) (verbose : Bool) :
    info.kind.isIndex = info.planFacts.takes verbose .indexFooter := by
  obtain ⟨_, _, kind, _, _, _, _, _, _, _, _⟩ := info
  cases kind <;> rfl

theorem nodup_labels_plan (f : PlanFacts) (verbose : Bool) :
    ((f.plan verbose).map DescribeStep.label).Nodup :=
  (List.filter_sublist.map _).nodup (by decide : (DescribeStep.all.map DescribeStep.label).Nodup)

end PlanFacts

/-! ## Sections -/

namespace Section

open Lookup (Asks)

/-- A section that is asked for when its step is taken, and the rest of the footer. -/
theorem asks_step {α β : Type} {o : ObjectRef} {info : TableInfo}
    {verbose applies : Bool} {otherwise : α} {x : Lookup α} {f : α → Lookup β}
    (step : DescribeStep) {steps : List DescribeStep}
    (hc : applies = info.planFacts.takes verbose step)
    (hx : Asks x.run [step.query o info.kind verbose])
    (hf : ∀ a, Asks (f a).run ((steps.filter (info.planFacts.takes verbose)).map
      (DescribeStep.query o info.kind verbose))) :
    Asks (onlyIf applies otherwise x >>= f).run
      (((step :: steps).filter (info.planFacts.takes verbose)).map
        (DescribeStep.query o info.kind verbose)) := by
  rw [List.filter_cons, ← hc]
  cases applies with
  | true => exact .bind hx hf
  | false => exact .bind (.pure otherwise) hf

theorem asks_rowsOf {α : Type} (q : Query) (read : Row → Except Failure α) :
    Asks (rowsOf q read).run [q] :=
  .bind_nil (.lookupAsk q) fun _ => .lift _

theorem asks_firstText (q : Query) : Asks (firstText q).run [q] := by
  refine .bind_nil (.askFirst? q) fun row => ?_
  cases row with
  | some row => exact .lift _
  | none => exact .pure _

theorem asks_texts (q : Query) : Asks (texts q).run [q] :=
  .bind_nil (asks_rowsOf q _) fun _ => .pure _

/-- The first text of an answer. -/
def readFirstText (label : String) (t : ResultSet) : Except Failure (Option String) :=
  match t.first? with
  | some row => row.text? label 0
  | none => .ok none

theorem firstText_eq (q : Query) :
    firstText q = Lookup.ask q >>= fun t => liftM (readFirstText q.label t) := by
  unfold firstText Lookup.askFirst?
  rw [bind_assoc]
  congr
  funext t
  rw [pure_bind]
  unfold readFirstText
  cases t.first? <;> rfl

/-- The only section that goes on after a failure; but not after its query was given up. -/
theorem asks_viewDefinition (oid : Oid) :
    Asks (viewDefinition oid).run [SectionQuery.viewDefinition oid] := by
  unfold viewDefinition
  rw [firstText_eq]
  refine .tryCatch_ask (fun e he => if_pos he) fun e => ?_
  split
  · exact .error e []
  · exact .ok none

theorem asks_indexSummary (oid : Oid) (schema : String) :
    Asks (indexSummary oid schema).run [SectionQuery.indexFooter oid] :=
  .bind_nil (.askFirst _) fun _ => .bind_nil (.lift _) fun _ => .pure _

theorem asks_firingGroups (q : Query) (shape : String → String) :
    Asks (firingGroups q shape).run [q] :=
  .bind_nil (asks_rowsOf q _) fun _ => .pure _

theorem asks_indexes (oid : Oid) : Asks (indexes oid).run [SectionQuery.indexes oid] :=
  .bind_nil (asks_rowsOf _ _) fun _ => .pure _

theorem asks_foreignServer (oid : Oid) :
    Asks (foreignServer oid).run [SectionQuery.foreignTable oid] := by
  refine .bind_nil (.askFirst? _) fun row => ?_
  cases row with
  | some row => exact .bind_nil (.lift _) fun _ => .pure _
  | none => exact .pure _

theorem asks_footer (o : ObjectRef) (info : TableInfo) (verbose : Bool) (ho : info.oid = o.oid) :
    Asks (footer info o.schema verbose).run
      (((DescribeStep.all.drop 3).filter (info.planFacts.takes verbose)).map
        (DescribeStep.query o info.kind verbose)) := by
  have hbase := PlanFacts.isBase_planFacts info
  have hfamily := PlanFacts.isFamily_planFacts info
  unfold footer
  dsimp only
  rw [ho, hbase, hfamily]
  exact
    asks_step .viewDefinition (PlanFacts.takes_viewDefinition _ _) (asks_viewDefinition _) fun _ =>
    asks_step .indexFooter (PlanFacts.takes_indexFooter _ _) (asks_indexSummary _ _) fun _ =>
    asks_step .sequenceOwner rfl (asks_firstText _) fun _ =>
    asks_step .indexes rfl (asks_indexes _) fun _ =>
    asks_step .checkConstraints rfl (asks_rowsOf _ _) fun _ =>
    asks_step .foreignKeys rfl (asks_rowsOf _ _) fun _ =>
    asks_step .referencedBy rfl (asks_rowsOf _ _) fun _ =>
    asks_step .rules rfl (asks_firingGroups _ _) fun _ =>
    asks_step .partitionOf rfl (asks_rowsOf _ _) fun _ =>
    asks_step .partitionKey rfl (asks_firstText _) fun _ =>
    asks_step .partitions rfl (asks_texts _) fun _ =>
    asks_step .triggers rfl (asks_firingGroups _ _) fun _ =>
    asks_step .foreignTable rfl (asks_foreignServer _) fun _ =>
    asks_step .inherits rfl (asks_texts _) fun _ =>
    asks_step .childTables rfl (asks_texts _) fun _ => .pure _

end Section

/-! ## Columns and table info -/

namespace Column

open Lookup (Asks)

theorem asks_lookupState (o : ObjectRef) (kind : RelationKind) :
    Asks (lookupState kind o.schema o.name).run
      (if kind = .sequence then [sequenceState o.schema o.name] else []) := by
  unfold lookupState
  split
  · exact .bind_nil (.askFirst? _) fun _ => .pure _
  · exact .pure []

theorem asks_lookupRows (o : ObjectRef) (info : TableInfo) (verbose : Bool)
    (ho : info.oid = o.oid) :
    Asks (lookupRows info o.schema o.name verbose).run
      ((((DescribeStep.all.drop 1).take 2).filter (info.planFacts.takes verbose)).map
        (DescribeStep.query o info.kind verbose)) := by
  unfold lookupRows
  rw [ho]
  refine .of_eq (.bind (.lookupAsk _) fun _ => .bind_nil (asks_lookupState o info.kind) fun _ =>
    .bind_nil (.lift _) fun _ => .pure _) ?_
  by_cases hk : info.kind = .sequence <;>
    simp [DescribeStep.all, List.filter_cons, PlanFacts.takes, TableInfo.planFacts, hk,
      DescribeStep.query]

end Column

namespace TableInfo

theorem asks_lookup (oid : Oid) : Lookup.Asks (lookup oid).run [query oid] :=
  .bind_nil (.askFirst _) fun _ => .lift _

/-- The facts are about the relation that was asked for. -/
theorem oid_of_ofRow {oid : Oid} {row : Row} {info : TableInfo} (h : ofRow oid row = .ok info) :
    info.oid = oid := by
  unfold ofRow at h
  simp only [bind, Except.bind] at h
  repeat' split at h
  all_goals cases h
  rfl

theorem oid_of_run {σ : Type} {db : Database σ} {limit : Option Nat} {s : Session σ} {oid : Oid}
    {info : TableInfo} (h : (s.run db limit (lookup oid).run).result = .ok info) :
    info.oid = oid := by
  unfold lookup at h
  rw [Session.run_bind] at h
  unfold Session.thenRun at h
  split at h
  · cases h
  · exact oid_of_ofRow h

end TableInfo

/-! ## Descriptions -/

namespace ObjectRef

variable {σ : Type} (db : Database σ) (limit : Option Nat)

/-- What a description does once the facts about the relation are known. -/
def describeFrom (verbose : Bool) (o : ObjectRef) (info : TableInfo) : Lookup Report := do
  let rows ← Column.lookupRows info o.schema o.name verbose
  let empty : Report :=
    { schema := o.schema, name := o.name, kind := info.kind
      headers := columnHeaders info.kind verbose }
  let report ← (rows.foldlM Report.push empty : Except Failure Report)
  let footer ← Section.footer info o.schema verbose
  return { report with footer }

theorem describe_eq (verbose : Bool) (o : ObjectRef) :
    o.describe verbose = TableInfo.lookup o.oid >>= o.describeFrom verbose := rfl

theorem asks_describeFrom (verbose : Bool) (o : ObjectRef) (info : TableInfo)
    (ho : info.oid = o.oid) :
    Lookup.Asks (o.describeFrom verbose info).run
      (((info.planFacts.plan verbose).drop 1).map (DescribeStep.query o info.kind verbose)) := by
  unfold describeFrom
  refine .of_eq (.bind (Column.asks_lookupRows o info verbose ho) fun _ =>
    .bind (.lift _) fun _ => .bind_nil (Section.asks_footer o info verbose ho) fun _ => .pure _) ?_
  rw [List.nil_append, ← List.map_append, ← List.filter_append]
  rfl

theorem givesUp_describe (verbose : Bool) (o : ObjectRef) :
    Lookup.GivesUp (o.describe verbose).run := by
  rw [describe_eq]
  refine .bind (TableInfo.asks_lookup o.oid).givesUp fun info => ?_
  exact (asks_describeFrom verbose { o with oid := info.oid } info rfl).givesUp

/-- The run of a description whose facts are not known. -/
theorem run_describe_error (verbose : Bool) {o : ObjectRef} {s : Session σ} {e : Failure}
    (h : (s.run db limit (TableInfo.lookup o.oid).run).result = .error e) :
    (s.run db limit (o.describe verbose).run).result = .error e ∧
      (s.run db limit (o.describe verbose).run).calls.filterMap Call.query? <+:
        [TableInfo.query o.oid] := by
  rw [describe_eq, Session.run_bind]
  simp only [Session.thenRun, h, true_and]
  exact ((TableInfo.asks_lookup o.oid).queries_run db limit s).1

/-- The run of a description whose facts are known. -/
theorem run_describe_ok (verbose : Bool) {o : ObjectRef} {s : Session σ} {info : TableInfo}
    (h : (s.run db limit (TableInfo.lookup o.oid).run).result = .ok info) :
    let sent := (s.run db limit (o.describe verbose).run).calls.filterMap Call.query?
    let planned := (info.planFacts.plan verbose).map (DescribeStep.query o info.kind verbose)
    sent <+: planned ∧
      ∀ r, (s.run db limit (o.describe verbose).run).result = .ok r → sent = planned := by
  intro sent planned
  have hfirst := ((TableInfo.asks_lookup o.oid).queries_run db limit s).2 info h
  obtain ⟨hpre, hall⟩ := (asks_describeFrom verbose o info (TableInfo.oid_of_run h)).queries_run
    db limit (s.run db limit (TableInfo.lookup o.oid).run).session
  have hplan : planned = [TableInfo.query o.oid] ++
      ((info.planFacts.plan verbose).drop 1).map (DescribeStep.query o info.kind verbose) := rfl
  have hsent : sent = [TableInfo.query o.oid] ++
      (((s.run db limit (TableInfo.lookup o.oid).run).session.run db limit
        (o.describeFrom verbose info).run).calls.filterMap Call.query?) := by
    simp only [sent, describe_eq, Session.run_bind, Session.thenRun, h, List.filterMap_append,
      hfirst]
  refine ⟨?_, fun r hr => ?_⟩
  · rw [hsent, hplan]
    exact (List.prefix_append_right_inj _).2 hpre
  · rw [hsent, hplan, hall r]
    simpa only [describe_eq, Session.run_bind, Session.thenRun, h] using hr

/-- The queries of a description are a prefix of its plan, and all of the plan if it succeeds;
nothing is asked after a table-info row that cannot be had. No two of them have the same label. -/
theorem describe_follows_plan (verbose : Bool) (o : ObjectRef) (s : Session σ) :
    let info := (s.run db limit (TableInfo.lookup o.oid).run).result
    let outcome := s.run db limit (o.describe verbose).run
    let sent := outcome.calls.filterMap Call.query?
    (∀ e, info = .error e → outcome.result = .error e ∧ sent <+: [TableInfo.query o.oid]) ∧
    (∀ i, info = .ok i →
      sent <+: (i.planFacts.plan verbose).map (DescribeStep.query o i.kind verbose) ∧
      sent.map Query.label <+: (i.planFacts.plan verbose).map DescribeStep.label) ∧
    (∀ r, outcome.result = .ok r → ∃ i, info = .ok i ∧
      sent = (i.planFacts.plan verbose).map (DescribeStep.query o i.kind verbose)) ∧
    (sent.map Query.label).Nodup := by
  intro info outcome sent
  cases hinfo : info with
  | error e =>
    obtain ⟨hresult, hsent⟩ := run_describe_error db limit verbose hinfo
    have hnodup : (sent.map Query.label).Nodup := (hsent.map Query.label).sublist.nodup (by simp)
    simp only [reduceCtorEq, Except.error.injEq]
    refine ⟨fun e' h => ⟨h ▸ hresult, hsent⟩, fun i h => h.elim, fun r h => ?_, hnodup⟩
    rw [show outcome.result = _ from hresult] at h
    cases h
  | ok i =>
    obtain ⟨hpre, hall⟩ := run_describe_ok db limit verbose hinfo
    have hlabels : sent.map Query.label <+: (i.planFacts.plan verbose).map DescribeStep.label := by
      have := hpre.map Query.label
      simpa [Function.comp_def] using this
    have hnodup : (sent.map Query.label).Nodup :=
      hlabels.sublist.nodup (i.planFacts.nodup_labels_plan verbose)
    simp only [reduceCtorEq, Except.ok.injEq]
    refine ⟨fun e h => h.elim, fun j h => h ▸ ⟨hpre, hlabels⟩, fun r hr => ?_, hnodup⟩
    exact ⟨i, rfl, hall r hr⟩

/-- A foreign table that is a partition is not listed with its parents and children. -/
example : (⟨.foreignTable, false, false, true, false, true⟩ : PlanFacts).plan false =
    [.tableInfo, .columns, .foreignKeys, .referencedBy, .partitionOf, .triggers,
      .foreignTable] := by
  decide

end ObjectRef

end CatalogShell
