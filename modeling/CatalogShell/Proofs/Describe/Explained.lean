import CatalogShell.Proofs.Describe.BestEffort
import CatalogShell.Proofs.Inquiry.Explained

/-!
# Descriptions explain their failures

The readings of rows take each cell from the column of the answer that holds it (`BlamesFault`), and
every section gives them the label of its own query. So a description that fails names the query
that was the reason (`ObjectRef.explains_describe`); the columns too, which are read after the state
of a sequence was asked for. The rows of the table have a cell for each header, so that none is
refused, and only the definition of a view is not missed if its query fails.
-/

namespace CatalogShell

open ColumnType (of orNull)

/-! ## Rows of answers -/

theorem TableInfo.blamesFault_ofRow (oid : Oid) (row : Row) :
    BlamesFault label row (ofRow oid row) := by
  have known : columnTypes.lookup label = some _ := rfl
  exact .bind (.int known rfl) fun _ => .bind (.text known rfl) fun _ =>
    .bind (.bool known rfl) fun _ => .bind (.bool known rfl) fun _ =>
    .bind (.bool known rfl) fun _ => .bind (.text? known rfl) fun _ =>
    .bind (.text? known rfl) fun _ => .bind (.text? known rfl) fun _ =>
    .bind (.text? known rfl) fun _ => .bind (.bool known rfl) fun _ => .ok _

theorem Column.blamesFault_ofRow (row : Row) : BlamesFault label row (ofRow row) := by
  have known : columnTypes.lookup label = some _ := rfl
  exact .bind (.text known rfl) fun _ => .bind (.text known rfl) fun _ =>
    .bind (.text? known rfl) fun _ => .bind (.bool known rfl) fun _ =>
    .bind (.text? known rfl) fun _ => .bind (.text? known rfl) fun _ =>
    .bind (.text? known rfl) fun _ => .bind (.text? known rfl) fun _ =>
    .bind (.text? known rfl) fun _ => .bind (.text? known rfl) fun _ =>
    .bind (.int? known rfl) fun _ => .bind (.text? known rfl) fun _ => .ok _

namespace Section

variable {label : String} {row : Row}

theorem IndexFacts.blamesFault_ofRow {oid : Oid} :
    BlamesFault (SectionQuery.indexFooter oid).label row
      (IndexFacts.ofRow (SectionQuery.indexFooter oid).label row) := by
  have known : columnTypes.lookup (SectionQuery.indexFooter oid).label = some _ := rfl
  exact .bind (.bool known rfl) fun _ => .bind (.bool known rfl) fun _ =>
    .bind (.bool known rfl) fun _ => .bind (.bool known rfl) fun _ =>
    .bind (.bool? known rfl) fun _ => .bind (.bool? known rfl) fun _ =>
    .bind (.text known rfl) fun _ => .bind (.text known rfl) fun _ =>
    .bind (.text? known rfl) fun _ => .ok _

theorem IndexEntry.blamesFault_ofRow {oid : Oid} :
    BlamesFault (SectionQuery.indexes oid).label row
      (IndexEntry.ofRow (SectionQuery.indexes oid).label row) := by
  have known : columnTypes.lookup (SectionQuery.indexes oid).label = some _ := rfl
  refine .bind (.text known rfl) fun _ => .bind (.bool known rfl) fun _ =>
    .bind (.bool known rfl) fun _ => .bind (.bool known rfl) fun _ =>
    .bind (.bool known rfl) fun _ => .bind (.text? known rfl) fun _ =>
    .bind (.text? known rfl) fun _ => .bind (.text? known rfl) fun constraintType => ?_
  -- The two flags are only read for indexes that belong to no exclusion constraint.
  have hflag {r : Except Failure (Option Bool)}
      (hr : BlamesFault (SectionQuery.indexes oid).label row r) :
      BlamesFault (SectionQuery.indexes oid).label row
        (if isExclusion constraintType then .ok false else r.map (·.getD false)) := by
    split
    · exact .ok _
    · exact .map _ hr
  exact .bind (hflag (.bool? known rfl)) fun _ => .bind (hflag (.bool? known rfl)) fun _ => .ok _

theorem blamesFault_namedDefinition
    (known : columnTypes.lookup label = some [of .text, orNull .text]) :
    BlamesFault label row (namedDefinition label row) :=
  .bind (.text known rfl) fun _ => .bind (.text? known rfl) fun _ => .ok _

theorem blamesFault_reference
    (known : columnTypes.lookup label = some [of .text, of .text, orNull .text]) :
    BlamesFault label row (reference label row) :=
  .bind (.text known rfl) fun _ => .bind (.text known rfl) fun _ =>
    .bind (.text? known rfl) fun _ => .ok _

theorem blamesFault_firingRow
    (known : columnTypes.lookup label = some [of .text, orNull .text, orNull .text]) :
    BlamesFault label row (firingRow label row) :=
  .bind (.text? known rfl) fun _ => .bind (.text? known rfl) fun _ => .ok _

theorem blamesFault_partitionRow
    (known : columnTypes.lookup label = some [orNull .text, orNull .text]) :
    BlamesFault label row (partitionRow label row) :=
  .bind (.text? known rfl) fun _ => .bind (.text? known rfl) fun _ => .ok _

theorem blamesFault_serverRow
    (known : columnTypes.lookup label = some [of .text, orNull .text]) :
    BlamesFault label row (serverRow label row) :=
  .bind (.text known rfl) fun _ => .bind (.text? known rfl) fun _ => .ok _

/-! ## Sections -/

open Lookup (Explains gives_ask gives_askFirst gives_askFirst?)

variable {α : Type} {ys : List Exchange} {q : Query}

theorem explains_onlyIf {applies : Bool} {otherwise : α} {x : Lookup α}
    (hx : Explains ys x.run) : Explains ys (onlyIf applies otherwise x).run := by
  cases applies with
  | true => exact hx
  | false => exact .pure otherwise

theorem explains_rowsOf {read : Row → Except Failure α}
    (hread : ∀ row, BlamesFault q.label row (read row)) : Explains ys (rowsOf q read).run :=
  .bind (.lookupAsk q) fun _ _ _ ht => .readAll (gives_ask.1 ht) hread

theorem explains_firstText (known : columnTypes.lookup q.label = some [orNull .text]) :
    Explains ys (firstText q).run := by
  refine .bind (.askFirst? q) fun zs row _ hrow => ?_
  obtain ⟨t, ht, rfl⟩ := gives_askFirst?.1 hrow
  cases hfirst : t.first? with
  | none => exact .pure none
  | some row => exact .read ht (List.mem_of_head? hfirst) (.text? known rfl)

theorem explains_texts (known : columnTypes.lookup q.label = some [orNull .text]) :
    Explains ys (texts q).run :=
  .seq (explains_rowsOf fun _ => .text? known rfl) fun _ => .pure _

theorem isAbandoned_of_readFirstText {label : String} {t : ResultSet} {e : Failure}
    (h : readFirstText label t = .error e) : e.isAbandoned = false := by
  unfold readFirstText at h
  split at h
  · obtain ⟨rfl, -⟩ := Row.nullable_eq_error.1 h
    rfl
  · cases h

/-- What is not recovered from is the failure of the query. -/
theorem eq_error_of_recover {answer : Answer} {label : String} {e : Failure}
    (h : recover (answer >>= readFirstText label) = .error e) : answer = .error e := by
  cases answer with
  | error e' =>
    change (if e'.isAbandoned then Except.error e' else .ok none) = .error e at h
    split at h
    · cases h
      rfl
    · cases h
  | ok t =>
    change recover (readFirstText label t) = .error e at h
    cases hread : readFirstText label t with
    | ok definition =>
      rw [hread] at h
      cases h
    | error e' =>
      rw [hread, recover, isAbandoned_of_readFirstText hread] at h
      cases h

theorem explains_viewDefinition (oid : Oid) : Explains ys (viewDefinition oid).run := by
  rw [run_viewDefinition]
  refine .ask fun answer _ => ?_
  cases h : recover (answer >>= readFirstText (SectionQuery.viewDefinition oid).label) with
  | ok definition => exact .ok definition
  | error e => exact .error (.failed List.getLast?_concat (eq_error_of_recover h))

theorem explains_indexSummary (oid : Oid) (schema : String) :
    Explains ys (indexSummary oid schema).run := by
  refine .bind (.askFirst _) fun zs row _ hrow => .seq ?_ fun _ => .pure _
  obtain ⟨t, ht, hfirst⟩ := gives_askFirst.1 hrow
  exact .read ht (List.mem_of_head? hfirst) IndexFacts.blamesFault_ofRow

theorem explains_firingGroups
    (known : columnTypes.lookup q.label = some [of .text, orNull .text, orNull .text])
    (shape : String → String) : Explains ys (firingGroups q shape).run :=
  .seq (explains_rowsOf fun _ => blamesFault_firingRow known) fun _ => .pure _

theorem explains_foreignServer (oid : Oid) : Explains ys (foreignServer oid).run := by
  refine .bind (.askFirst? _) fun zs row _ hrow => ?_
  obtain ⟨t, ht, rfl⟩ := gives_askFirst?.1 hrow
  cases hfirst : t.first? with
  | none => exact .pure none
  | some row =>
    exact .seq (.read ht (List.mem_of_head? hfirst) (blamesFault_serverRow rfl)) fun _ => .pure _

theorem explains_gather (info : TableInfo) (schema : String) :
    Explains ys (gather info schema).run :=
  .seq (explains_onlyIf (explains_indexSummary _ _)) fun _ =>
  .seq (explains_onlyIf (explains_firstText rfl)) fun _ =>
  .seq (explains_onlyIf (.seq (explains_rowsOf fun _ => IndexEntry.blamesFault_ofRow) fun _ =>
    .pure _)) fun _ =>
  .seq (explains_onlyIf (explains_rowsOf fun _ => blamesFault_namedDefinition rfl)) fun _ =>
  .seq (explains_onlyIf (explains_rowsOf fun _ => blamesFault_namedDefinition rfl)) fun _ =>
  .seq (explains_onlyIf (explains_rowsOf fun _ => blamesFault_reference rfl)) fun _ =>
  .seq (explains_onlyIf (explains_firingGroups rfl _)) fun _ =>
  .seq (explains_onlyIf (explains_rowsOf fun _ => blamesFault_partitionRow rfl)) fun _ =>
  .seq (explains_onlyIf (explains_firstText rfl)) fun _ =>
  .seq (explains_onlyIf (explains_texts rfl)) fun _ =>
  .seq (explains_onlyIf (explains_firingGroups rfl _)) fun _ =>
  .seq (explains_onlyIf (explains_foreignServer _)) fun _ =>
  .seq (explains_onlyIf (explains_texts rfl)) fun _ =>
  .seq (explains_onlyIf (explains_texts rfl)) fun _ => .pure _

theorem explains_footer (info : TableInfo) (schema : String) (verbose : Bool) :
    Explains ys (footer info schema verbose).run := by
  rw [footer_eq]
  exact .seq (explains_onlyIf (explains_viewDefinition _)) fun _ =>
    .seq (explains_gather info schema) fun _ => .pure _

end Section

/-! ## Descriptions -/

open Lookup (Explains gives_ask gives_askFirst)

variable {ys : List Exchange}

theorem TableInfo.explains_lookup (oid : Oid) : Explains ys (lookup oid).run := by
  refine .bind (.askFirst _) fun zs row _ hrow => ?_
  obtain ⟨t, ht, hfirst⟩ := gives_askFirst.1 hrow
  exact .read ht (List.mem_of_head? hfirst) (blamesFault_ofRow oid row)

theorem Column.explains_lookupState (kind : RelationKind) (schema name : String) :
    Explains ys (lookupState kind schema name).run := by
  unfold lookupState
  split
  · exact .seq (.askFirst? _) fun _ => .pure _
  · exact .pure []

theorem Column.explains_lookupRows (info : TableInfo) (schema name : String) (verbose : Bool) :
    Explains ys (lookupRows info schema name verbose).run := by
  refine .bind (.lookupAsk _) fun zs answer _ hanswer =>
    .bind (explains_lookupState info.kind schema name) fun ws state hws _ =>
    .seq ?_ fun _ => .pure _
  -- The answer was got before the state was asked for.
  have hanswered := (gives_ask.1 hanswer).mono hws
  refine .readAll hanswered fun row => ?_
  rw [label_query]
  exact blamesFault_ofRow row

theorem ObjectRef.explains_describe (verbose : Bool) (o : ObjectRef) :
    Explains ys (o.describe verbose).run := by
  refine .seq (TableInfo.explains_lookup o.oid) fun info =>
    .bind (Column.explains_lookupRows info _ _ _) fun _ rows _ hrows => ?_
  obtain ⟨answer, state, columns, -, -, -, rfl⟩ := Column.gives_lookupRows.1 hrows
  refine .seq (.lift fun e he => ?_) fun _ =>
    .seq (Section.explains_footer info _ _) fun _ => .pure _
  rw [Column.foldlM_push fun row hrow => Column.length_of_mem_rows hrow] at he
  cases he

end CatalogShell
