import CatalogShell.Proofs.Describe.Parts
import CatalogShell.Proofs.Session.Memoryless
import Mathlib.Data.List.Forall2

/-!
# The two forms of a description

On a database without memory the plain and the verbose form of a description get the same answers
to the same queries. `Report.Condenses` says how the plain report is then read off the verbose
one: it leaves cells and sections out and counts what the verbose report lists.
`describe_plain_condenses_verbose` proves it of any two runs that succeed.
-/

namespace CatalogShell

/-- The first report is the plain form of what the second says in the verbose form. -/
structure Report.Condenses (plain verbose : Report) : Prop where
  title : plain.title = verbose.title
  headers : plain.headers <+: verbose.headers
  rows : List.Forall₂ (· <+: ·) plain.rows verbose.rows
  /-- The footers differ in the definition of a view and the options, which the plain report does
  not have, and in partitions and child tables, which it counts. Partitions are counted even if
  there are none. -/
  footer : plain.footer = { verbose.footer with
    viewDefinition := none
    options := none
    partitions := []
    partitionsSummary :=
      if plain.kind = .partitionedTable then
        some (Section.countLine "partitions" verbose.footer.partitions.length)
      else none
    childTables := []
    childTablesSummary :=
      if verbose.footer.childTables = [] then none
      else some (Section.countLine "child tables" verbose.footer.childTables.length) }
  /-- The verbose report counts nothing. -/
  lists : verbose.footer.partitionsSummary = none ∧ verbose.footer.childTablesSummary = none

open Lookup (Gives)

namespace Column

theorem columnHeaders_isPrefix (kind : RelationKind) :
    columnHeaders kind false <+: columnHeaders kind true := by
  simp only [columnHeaders, Bool.false_eq_true, ↓reduceIte, List.append_nil]
  exact List.prefix_append _ _

theorem cells_isPrefix (kind : RelationKind) (c : Column) (state : Option Value) :
    c.cells kind false state <+: c.cells kind true state := by
  simp only [cells, Bool.false_eq_true, ↓reduceIte, List.append_nil]
  exact List.prefix_append _ _

/-- Both forms ask for the columns with the same parameters, though not with the same text. -/
theorem params_query (oid : Oid) (kind : RelationKind) (verbose : Bool) :
    (query oid kind verbose).params = [.oid oid] := by
  simp only [query, apply_ite Query.params, Query.params_append, Query.params_push]
  simp [Query.hold]

variable {R : Query → Answer → Prop} {info : TableInfo} {schema name : String}

/-- Each plain row is a prefix of the verbose row, if the answers are the same. -/
theorem rows_isPrefix (hR : ∀ q answer answer', R q answer → R q answer' → answer = answer')
    (hquery : ∀ answer answer', R (query info.oid info.kind false) answer →
      R (query info.oid info.kind true) answer' → answer = answer')
    {plain verbose : List (List String)} (hp : Gives R (lookupRows info schema name false) plain)
    (hv : Gives R (lookupRows info schema name true) verbose) :
    List.Forall₂ (· <+: ·) plain verbose := by
  obtain ⟨answer, state, columns, ha, hs, hc, rfl⟩ := gives_lookupRows.1 hp
  obtain ⟨answer', state', columns', ha', hs', hc', rfl⟩ := gives_lookupRows.1 hv
  obtain rfl : answer = answer' := Except.ok.inj (hquery _ _ ha ha')
  obtain rfl := hs.unique hR hs'
  obtain rfl : columns = columns' := Except.ok.inj (hc.symm.trans hc')
  refine List.forall₂_iff_get.2 ⟨by simp, fun k h h' => ?_⟩
  simp only [List.get_eq_getElem, List.getElem_mapIdx]
  exact cells_isPrefix info.kind _ _

end Column

namespace Section

/-- The footers of both forms, if the parts are the same. -/
theorem footer_assemble (p : Parts) (info : TableInfo) (definition : Option String) :
    p.assemble info false none = { p.assemble info true definition with
      viewDefinition := none
      options := none
      partitions := []
      partitionsSummary :=
        if info.kind = .partitionedTable then some (countLine "partitions" p.partitions.length)
        else none
      childTables := []
      childTablesSummary :=
        if p.children = [] then none else some (countLine "child tables" p.children.length) } := by
  unfold Parts.assemble
  cases hc : p.children <;> simp

end Section

namespace ObjectRef

/-- If the answer to a query depends on its label and its parameters alone, a plain description
and a verbose one that both succeed say the same, the plain one in less detail. -/
theorem describe_plain_condenses_verbose {σ : Type} {db : Database σ} {limit limit' : Option Nat}
    {s s' : Session σ} {f : String → List Value → Answer} (hs : db.AnswersBy s.database f)
    (hs' : db.AnswersBy s'.database f) (o : ObjectRef) {plain verbose : Report}
    (hp : (s.run db limit (o.describe false).run).result = .ok plain)
    (hv : (s'.run db limit' (o.describe true).run).result = .ok verbose) :
    plain.Condenses verbose := by
  have hR : ∀ (q : Query) (answer answer' : Answer), answer = f q.label q.params →
      answer' = f q.label q.params → answer = answer' := fun _ _ _ h h' => h.trans h'.symm
  have hplain := (givesUp_describe false o).mayReturn_of_answersBy hs hp
  have hverbose := (givesUp_describe true o).mayReturn_of_answersBy hs' hv
  obtain ⟨info, hinfo, hplain⟩ := gives_describe.1 hplain
  obtain ⟨info', hinfo', hverbose⟩ := gives_describe.1 hverbose
  obtain rfl := hinfo.unique hR hinfo'
  obtain ⟨rows, footer, hrows, hfooter, rfl⟩ := gives_describeFrom.1 hplain
  obtain ⟨rows', footer', hrows', hfooter', rfl⟩ := gives_describeFrom.1 hverbose
  obtain ⟨definition, parts, hdefinition, hparts, rfl⟩ := Section.gives_footer.1 hfooter
  obtain ⟨definition', parts', -, hparts', rfl⟩ := Section.gives_footer.1 hfooter'
  obtain rfl := hparts.unique hR hparts'
  obtain rfl : definition = none := by
    simpa [Section.gives_onlyIf] using hdefinition
  refine ⟨rfl, Column.columnHeaders_isPrefix info.kind, Column.rows_isPrefix hR ?_ hrows hrows',
    Section.footer_assemble parts info definition', by simp [Section.Parts.assemble]⟩
  rintro _ _ rfl rfl
  simp only [Column.label_query, Column.params_query]

end ObjectRef

/-- A database with a partitioned table that has a storage option and two partitions. -/
def Script.orders : Script := .ofRows [
  ("describe.table_info", [⟨[.integer 0, .text "p", .boolean false, .boolean false, .boolean false,
    .text "fillfactor=70", .null, .null, .text "p", .boolean false]⟩]),
  ("describe.columns", [⟨[.text "day", .text "date", .null, .boolean true, .null, .text "",
    .text "", .null, .null, .null, .text "p", .null, .null]⟩]),
  ("describe.partition_key", [⟨[.text "RANGE (day)"]⟩]),
  ("describe.partitions", [⟨[.text "public.old"]⟩, ⟨[.null]⟩, ⟨[.text "public.new"]⟩])]

/-- The plain description of the partitioned table. -/
def Report.orders : Report where
  schema := "public"
  name := "orders"
  kind := .partitionedTable
  headers := ["Column", "Type", "Modifiers"]
  rows := [["day", "date", "not null"]]
  footer := {
    partitionKey := some "RANGE (day)"
    partitionsSummary := some "Number of partitions: 2 (Use \\d+ to list them.)" }

/-- The verbose description of the partitioned table. -/
def Report.ordersVerbose : Report where
  schema := "public"
  name := "orders"
  kind := .partitionedTable
  headers := ["Column", "Type", "Modifiers", "Storage"]
  rows := [["day", "date", "not null", "plain"]]
  footer := {
    partitionKey := some "RANGE (day)"
    partitions := ["public.old", "public.new"]
    options := some "fillfactor=70" }

theorem ObjectRef.describe_plain_condenses_verbose_orders :
    let o : ObjectRef := ⟨7, "public", "orders", .partitionedTable⟩
    let s : Session Script := ⟨.orders, false⟩
    (∃ f, Script.database.AnswersBy s.database f) ∧
      (s.run Script.database none (o.describe false).run).result = .ok .orders ∧
      (s.run Script.database none (o.describe true).run).result = .ok .ordersVerbose ∧
      Report.orders.Condenses .ordersVerbose :=
  ⟨⟨_, Script.answersBy_ofRows _⟩, rfl, rfl,
    @describe_plain_condenses_verbose Script Script.database none none ⟨.orders, false⟩
      ⟨.orders, false⟩ _ (Script.answersBy_ofRows _) (Script.answersBy_ofRows _)
      ⟨7, "public", "orders", .partitionedTable⟩ _ _ rfl rfl⟩

end CatalogShell
