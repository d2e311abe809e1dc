import CatalogShell.Proofs.Describe.Explained
import CatalogShell.Proofs.Describe.Footer
import CatalogShell.Proofs.Session.Memoryless

/-!
# The cells of a description

What belongs under each header of a description is said by `Column.cellUnder`, from a row of the
answer about columns and the state of a sequence.

Headers and cells are made by two functions, `columnHeaders` and `Column.cells`, and each of them
has its own cases for the kind of the relation and the form of the description. That they go
together place by place is proved of every kind (`Column.IsRead.forall₂_cells`). So in every report
there is a row for each row of the answer and a cell for each header, and the cells under a header
are those that belong there (`describe_fills_cells`). The description itself never fails internally.
-/

namespace CatalogShell

/-! ## What belongs under a header -/

/-- The text at a column; NULL and what is missing or no text has none. -/
def Row.textAt (row : Row) (column : Nat) : Option String := (row.get? column).bind Value.text?

namespace Column

/-- The modifiers that the row of a column tells, in the order of display. -/
def modifierTexts (row : Row) : List String :=
  let stored : Bool := row.textAt 6 = some "s"
  List.filterMap id [
    (row.textAt 4).map fun s => "collate " ++ s,
    if row.get? 3 = some (.boolean true) then some "not null" else none,
    if stored then none else (row.textAt 2).map fun s => "default " ++ s,
    if row.textAt 5 = some "a" then some "generated always as identity"
    else if row.textAt 5 = some "d" then some "generated by default as identity"
    else if stored then (row.textAt 2).map fun s => "generated always as (" ++ s ++ ") stored"
    else none]

/-- The ways to store a column, by their codes. -/
def storageNames : List (Char × String) :=
  [('p', "plain"), ('m', "main"), ('x', "extended"), ('e', "external")]

/-- The way to store a column that the first character of a text tells. -/
def storageName (code : String) : String :=
  (code.toList.head?.bind (storageNames.lookup ·)).getD "???"

/-- The cell under a header, from the row of a column and the value of a sequence next to it. -/
def cellUnder (header : String) (row : Row) (state : Option Value) : String :=
  match header with
  | "Column" => (row.textAt 0).getD ""
  | "Type" => (row.textAt 1).getD ""
  | "Modifiers" => " ".intercalate (modifierTexts row)
  | "Value" => (state.map Value.display).getD ""
  | "Definition" => (row.textAt 8).getD ""
  | "FDW Options" => (row.textAt 9).getD ""
  | "Storage" => ((row.textAt 10).map storageName).getD ""
  | "Stats target" => (((row.get? 11).bind Value.int?).map toString).getD ""
  | "Description" => (row.textAt 12).getD ""
  | _ => ""

example : cellUnder "Modifiers" ⟨[.text "total", .text "numeric", .text "(net + tax)",
    .boolean true, .null, .text "", .text "s"]⟩ none =
      "not null generated always as ((net + tax)) stored" := by
  decide

/-- The column has been read from the row. -/
structure IsRead (row : Row) (c : Column) : Prop where
  name : row.textAt 0 = some c.name
  type : row.textAt 1 = some c.type
  default : row.textAt 2 = c.default
  notNull : row.get? 3 = some (.boolean c.notNull)
  collation : row.textAt 4 = c.collation
  identity : (row.textAt 5).getD "" = c.identity
  generated : (row.textAt 6).getD "" = c.generated
  definition : row.textAt 8 = c.definition
  fdwOptions : row.textAt 9 = c.fdwOptions
  storage : row.textAt 10 = c.storage
  statsTarget : (row.get? 11).bind Value.int? = c.statsTarget
  description : row.textAt 12 = c.description

theorem textAt_of_get? {row : Row} {column : Nat} {o : Option String}
    (h : row.get? column = some (o.elim .null .text)) : row.textAt column = o := by
  cases o <;> simp [Row.textAt, h, Value.text?]

theorem isRead_of_ofRow {row : Row} {c : Column} (h : ofRow row = .ok c) : IsRead row c := by
  simp only [ofRow, Reading.bind_eq_ok, Reading.pure_eq_ok, Row.text_eq_ok, Row.text?_eq_ok,
    Row.bool_eq_ok] at h
  obtain ⟨name, h0, type, h1, default, h2, notNull, h3, collation, h4, identity, h5, generated, h6,
    definition, h8, fdwOptions, h9, storage, h10, statsTarget, h11, description, h12, rfl⟩ := h
  exact {
    name := by simp [Row.textAt, h0, Value.text?]
    type := by simp [Row.textAt, h1, Value.text?]
    default := textAt_of_get? h2
    notNull := h3
    collation := textAt_of_get? h4
    identity := by rw [textAt_of_get? h5]
    generated := by rw [textAt_of_get? h6]
    definition := textAt_of_get? h8
    fdwOptions := textAt_of_get? h9
    storage := textAt_of_get? h10
    statsTarget := Row.int?_of_eq_ok h11
    description := textAt_of_get? h12 }

theorem getD_eq_iff {o : Option String} {s : String} (hs : s ≠ "") :
    o.getD "" = s ↔ o = some s := by
  cases o <;> simp [hs.symm]

theorem filterMap_id_four (a b c d : Option String) :
    [a, b, c, d].filterMap id = a.toList ++ b.toList ++ c.toList ++ d.toList := by
  cases a <;> cases b <;> cases c <;> cases d <;> rfl

theorem IsRead.modifiers {row : Row} {c : Column} (h : IsRead row c) :
    c.modifiers = " ".intercalate (modifierTexts row) := by
  have hstored : c.isStored = decide (row.textAt 6 = some "s") := by
    simp [isStored, ← h.generated, getD_eq_iff]
  have halways : c.identity = "a" ↔ row.textAt 5 = some "a" := by
    rw [← h.identity]
    exact getD_eq_iff (by decide)
  have hdefault : c.identity = "d" ↔ row.textAt 5 = some "d" := by
    rw [← h.identity]
    exact getD_eq_iff (by decide)
  unfold Column.modifiers modifierTexts
  rw [filterMap_id_four]
  -- The four modifiers, one after the other.
  congr 4
  · simp [h.collation, Option.toList_map]
  · cases hn : c.notNull <;> simp [h.notNull, hn]
  · rw [hstored, h.default]
    split <;> simp [Option.toList_map]
  · unfold generation
    simp only [halways, hdefault, hstored, h.default]
    repeat' split
    all_goals simp [Option.toList_map]

theorem storageLabel_eq_storageName (code : String) : storageLabel code = storageName code := by
  unfold storageLabel storageName
  cases code.toList with
  | nil => rfl
  | cons c cs =>
    split
    case h_5 hplain hmain hextended hexternal =>
      have hnone : storageNames.lookup c = none := by
        simp_all [storageNames, List.lookup_eq_none_iff]
      simp [hnone]
    all_goals
      next heq =>
        cases heq
        rfl

theorem showInt_eq_toString (n : Int) : Value.showInt n = toString n := by
  cases n with
  | ofNat m => rfl
  | negSucc m =>
    rw [Value.showInt, if_pos (Int.negSucc_lt_zero m)]
    rfl

/-- Headers and cells go together: place by place the cell is what belongs under the header. Only
the value of a sequence depends on the state. -/
theorem IsRead.forall₂_cells {row : Row} {c : Column} (h : IsRead row c) {kind : RelationKind}
    {state state' : Option Value} (hstate : kind = .sequence → state = state') (verbose : Bool) :
    List.Forall₂ (fun header cell => cell = cellUnder header row state')
      (columnHeaders kind verbose) (c.cells kind verbose state) := by
  have hdefinition : c.definition.getD "" = cellUnder "Definition" row state' := by
    simp [cellUnder, h.definition]
  have hstorage : c.storage.elim "" storageLabel = cellUnder "Storage" row state' := by
    cases hc : c.storage <;> simp [cellUnder, h.storage, hc, storageLabel_eq_storageName]
  have hstats : c.statsTarget.elim "" Value.showInt = cellUnder "Stats target" row state' := by
    cases hc : c.statsTarget <;> simp [cellUnder, h.statsTarget, hc, showInt_eq_toString]
  refine List.rel_append (List.rel_append (List.rel_append ?_ ?_) ?_) ?_
  · exact .cons (by simp [cellUnder, h.name]) (.cons (by simp [cellUnder, h.type]) .nil)
  · split
    · exact .cons (by simp [cellUnder, h.modifiers]) .nil
    · exact .nil
  -- The cell that a kind has of its own.
  · cases kind with
    | sequence =>
      obtain rfl := hstate rfl
      exact .cons (by cases state <;> rfl) .nil
    | index => exact .cons hdefinition .nil
    | partitionedIndex => exact .cons hdefinition .nil
    | foreignTable => exact .cons (by simp [cellUnder, h.fdwOptions]) .nil
    | _ => exact .nil
  · split
    · refine List.rel_append (List.rel_append ?_ ?_) ?_
      · exact .cons hstorage .nil
      · split
        · exact .cons hstats .nil
        · exact .nil
      · split
        · exact .cons (by simp [cellUnder, h.description]) .nil
        · exact .nil
    · exact .nil

end Column

/-! ## Headers -/

/-- Headers stand in the same order for all kinds. -/
theorem columnHeaders_sublist (kind : RelationKind) (verbose : Bool) :
    (columnHeaders kind verbose).Sublist
      (["Column", "Type"] ++ ["Modifiers"] ++ ["Value", "Definition", "FDW Options"] ++
        (["Storage"] ++ ["Stats target"] ++ ["Description"])) := by
  refine ((List.Sublist.append (.refl _) ?_).append ?_).append ?_
  · split <;> simp
  · cases kind <;> simp
  · split
    · refine (List.Sublist.append (.refl _) ?_).append ?_ <;> split <;> simp
    · simp

/-- No header stands twice. -/
theorem nodup_columnHeaders (kind : RelationKind) (verbose : Bool) :
    (columnHeaders kind verbose).Nodup :=
  (columnHeaders_sublist kind verbose).nodup (by decide)

/-! ## Reports -/

/-- The table of the report is filled from the rows of an answer and the state of a sequence. -/
structure Report.FilledFrom (r : Report) (rows : List Row) (state : List Value) : Prop where
  /-- There is a row for each row of the answer. -/
  length : r.rows.length = rows.length
  /-- There is a cell for each header. -/
  width : ∀ row ∈ r.rows, row.length = r.headers.length
  /-- Under a header stands, row by row, what belongs there. -/
  columns : ∀ h ∈ r.headers,
    r.columnValues? h = some (rows.mapIdx fun k row => Column.cellUnder h row state[k]?)

theorem Report.columnValues?_getElem {r : Report} (h : r.headers.Nodup) {k : Nat}
    (hk : k < r.headers.length) :
    r.columnValues? r.headers[k] = some (r.rows.map (·[k]?.getD "")) := by
  have hfind : r.headers.findIdx? (· = r.headers[k]) = some k := by
    refine List.findIdx?_eq_some_iff_getElem.2 ⟨hk, by simp, fun j hj => ?_⟩
    simpa using List.pairwise_iff_getElem.1 h j k _ hk hj
  simp [columnValues?, hfind]

namespace Column

theorem filledFrom_mapIdx {r : Report} {verbose : Bool} {rows : List Row} {columns : List Column}
    (hcolumns : List.Forall₂ IsRead rows columns) {state state' : List Value}
    (hstate : r.kind = .sequence → state = state')
    (hheaders : r.headers = columnHeaders r.kind verbose)
    (hrows : r.rows = columns.mapIdx fun k c => c.cells r.kind verbose state[k]?) :
    r.FilledFrom rows state' where
  length := by simp [hrows, hcolumns.length_eq]
  width row hrow := by
    rw [hheaders]
    rw [hrows] at hrow
    exact length_of_mem_rows hrow
  columns h hh := by
    obtain ⟨k, hk, rfl⟩ := List.getElem_of_mem hh
    rw [Report.columnValues?_getElem (hheaders ▸ nodup_columnHeaders _ _) hk, hrows]
    -- Row by row, the cell at the place of the header is what belongs under it.
    refine congrArg some (List.ext_getElem (by simp [hcolumns.length_eq]) fun j hj hj' => ?_)
    simp only [List.length_map, List.length_mapIdx] at hj hj'
    have hread : IsRead rows[j] columns[j] := hcolumns.get hj' hj
    have hcells := hread.forall₂_cells (fun hkind => congrArg (·[j]?) (hstate hkind)) verbose
    rw [← hheaders] at hcells
    have hk' : k < (columns[j].cells r.kind verbose state[j]?).length := hcells.length_eq ▸ hk
    rw [List.getElem_map, List.getElem_mapIdx, List.getElem_mapIdx, List.getElem?_eq_getElem hk']
    exact hcells.get hk hk'

/-- The state of a sequence, if a query for it was answered. -/
def stateOf : Option Answer → List Value
  | some (.ok t) => t.first?.elim [] Row.values
  | _ => []

end Column

namespace ObjectRef

variable {σ : Type} {db : Database σ} {limit : Option Nat} {s : Session σ} {o : ObjectRef}
  {verbose : Bool}

/-- The queries of a description are told apart by their labels. -/
theorem nodup_labels_exchanges (verbose : Bool) {info : TableInfo}
    (h : (s.run db limit (TableInfo.lookup o.oid).run).result = .ok info) :
    ((s.exchanges db limit (o.describe verbose).run).map (·.query.label)).Nodup := by
  have hlabels := (run_describe_ok db limit verbose h).1.map Query.label
  rw [Session.queries_run, List.map_map, List.map_map] at hlabels
  simp only [Function.comp_def, DescribeStep.label_query] at hlabels
  exact hlabels.sublist.nodup (info.planFacts.nodup_labels_plan verbose)

/-- An internal failure of a description is the database's own answer to one of its queries. -/
theorem internal_of_run {reason : String}
    (h : (s.run db limit (o.describe verbose).run).result = .error (.internal reason)) :
    ∃ y ∈ s.exchanges db limit (o.describe verbose).run, ∃ d, db.Reaches s.database d ∧
      (db.reply y.query d).1.answer = .error (.internal reason) := by
  obtain hcancelled | hexplained :=
    (explains_describe verbose o).explainedBy_run (givesUp_describe verbose o) db limit s h
  · cases hcancelled
  · rw [List.nil_append] at hexplained
    cases hexplained with
    | @failed y _ last hy =>
      have hmem := List.mem_of_getLast? last
      obtain ⟨d, hd, hsettle⟩ := Session.exists_reply_of_mem_exchanges _ s hmem
      rw [hy] at hsettle
      obtain hreply | habandoned := (db.reply y.query d).1.settle_eq_or_isAbandoned limit
      · exact ⟨y, hmem, d, hd, by rw [← hreply, ← hsettle]⟩
      · rw [← hsettle] at habandoned
        cases habandoned

/-- A description never fails internally unless the database does. Its table has the headers that
go with the kind of the relation, and is filled from the answer about columns and the state of a
sequence. For every kind of relation, known or not, headers and cells go together: each row that is
read as a column gives the cells that belong under the headers, place by place. -/
theorem describe_fills_cells (db : Database σ) (limit : Option Nat) (s : Session σ)
    (o : ObjectRef) (verbose : Bool) :
    let ys := s.exchanges db limit (o.describe verbose).run
    let result := (s.run db limit (o.describe verbose).run).result
    (∀ reason, result = .error (.internal reason) → ∃ y ∈ ys, ∃ d, db.Reaches s.database d ∧
      (db.reply y.query d).1.answer = .error (.internal reason)) ∧
    (∀ r, result = .ok r → ∃ info t,
      (s.run db limit (TableInfo.lookup o.oid).run).result = .ok info ∧ r.kind = info.kind ∧
      r.headers = columnHeaders r.kind verbose ∧
      answerTo? DescribeStep.columns.label ys = some (.ok t) ∧
      r.FilledFrom t.rows (Column.stateOf (answerTo? DescribeStep.sequenceState.label ys))) ∧
    ∀ kind row c state, Column.ofRow row = .ok c →
      List.Forall₂ (fun header cell => cell = Column.cellUnder header row state)
        (columnHeaders kind verbose) (c.cells kind verbose state) := by
  intro ys result
  refine ⟨fun reason => internal_of_run, fun r hr => ?_, fun kind row c state hc =>
    (Column.isRead_of_ofRow hc).forall₂_cells (fun _ => rfl) verbose⟩
  obtain ⟨info, hinfo, hgives⟩ := exists_info_of_run hr
  have hnodup := nodup_labels_exchanges verbose hinfo
  obtain ⟨rows, footer, hrows, -, rfl⟩ := gives_describeFrom.1 hgives
  obtain ⟨answer, state, columns, hanswer, hstate, hcolumns, rfl⟩ := Column.gives_lookupRows.1 hrows
  have hread : List.Forall₂ Column.IsRead answer.rows columns :=
    (Reading.mapM_eq_ok.1 hcolumns).imp fun _ _ => Column.isRead_of_ofRow
  have hcolumnsTold := hanswer.answerTo?_eq hnodup
  rw [Column.label_query] at hcolumnsTold
  refine ⟨info, answer, hinfo, rfl, rfl, hcolumnsTold,
    Column.filledFrom_mapIdx hread (fun hkind => ?_) rfl rfl⟩
  have hsequence : info.kind = .sequence := hkind
  rw [hsequence, Column.gives_lookupState] at hstate
  obtain ⟨t, ht, rfl⟩ := hstate
  have hstateTold := ht.answerTo?_eq hnodup
  exact (congrArg Column.stateOf hstateTold).symm

/-- A sequence shows next to each column the value at the same place of its state. -/
example :
    let s : Session Script := ⟨.ofRows [
      ("describe.table_info", [⟨[.integer 0, .text "S", .boolean false, .boolean false,
        .boolean false, .null, .null, .null, .text "p", .boolean false]⟩]),
      ("describe.columns", [
        ⟨[.text "last_value", .text "bigint", .null, .boolean true, .null, .null, .null, .null,
          .null, .null, .null, .null, .null]⟩,
        ⟨[.text "is_called", .text "boolean", .null, .boolean true, .null, .null, .null, .null,
          .null, .null, .null, .null, .null]⟩]),
      ("describe.sequence_state", [⟨[.integer 42, .boolean true]⟩])], false⟩
    let o : ObjectRef := ⟨7, "public", "ticket", .sequence⟩
    (s.run Script.database none (o.describe false).run).result.map Report.rows =
      .ok [["last_value", "bigint", "42"], ["is_called", "boolean", "t"]] :=
  rfl

end ObjectRef

end CatalogShell
