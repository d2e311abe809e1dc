import CatalogShell.Proofs.Describe.Cells
import Mathlib.Data.List.Nodup

/-!
# Sections and the rows of their queries

The answer to the query of a section is found among the exchanges of a description by its label. If
it is there, the section applied (`ObjectRef.takes_of_answerTo?`), and what stands in the report has
been read from the rows of that answer (`ObjectRef.exists_read_of_gives`).
-/

namespace CatalogShell

open Lookup (Gives gives_bind gives_pure gives_ask gives_lift)

namespace DescribeStep

theorem mem_all (step : DescribeStep) : step ∈ all := by
  cases step <;> decide

/-- A step is told by the label of its query. -/
theorem label_injective : Function.Injective label := fun step step' h =>
  List.inj_on_of_nodup_map (by decide : (all.map label).Nodup) step.mem_all step'.mem_all h

end DescribeStep

namespace Section

variable {α β : Type} {R : Query → Answer → Prop} {q : Query} {read : Row → Except Failure α}

/-- What a section makes of all rows of its answer. -/
theorem gives_rowsOf {f : List α → β} {b : β} :
    Gives R (rowsOf q read >>= fun l => pure (f l)) b ↔
      ∃ t l, R q (.ok t) ∧ t.rows.mapM read = .ok l ∧ b = f l := by
  simp only [rowsOf, gives_bind, gives_ask, gives_lift, gives_pure]
  constructor
  · rintro ⟨l, ⟨t, ht, hl⟩, rfl⟩
    exact ⟨t, l, ht, hl, rfl⟩
  · rintro ⟨t, l, ht, hl, rfl⟩
    exact ⟨l, ⟨t, ht, hl⟩, rfl⟩

/-- The indexes, the rules and the triggers among the parts of a footer, each asked for if its step
is taken. -/
theorem gives_of_gives_gather {info : TableInfo} {schema : String} {p : Parts} (verbose : Bool)
    (h : Gives R (gather info schema) p) :
    Gives R (onlyIf (info.planFacts.takes verbose .indexes) [] (indexes info.oid)) p.indexes ∧
    Gives R (onlyIf (info.planFacts.takes verbose .rules) {}
      (firingGroups (SectionQuery.rules info.oid) id)) p.rules ∧
    Gives R (onlyIf (info.planFacts.takes verbose .triggers) {}
      (firingGroups (SectionQuery.triggers info.oid) triggerBody)) p.triggers := by
  unfold gather at h
  dsimp only at h
  simp only [PlanFacts.isBase_planFacts info, gives_bind, gives_pure] at h
  obtain ⟨_, -, _, -, indexes, hindexes, _, -, _, -, _, -, rules, hrules, _, -, _, -, _, -,
    triggers, htriggers, _, -, _, -, _, -, rfl⟩ := h
  exact ⟨hindexes, hrules, htriggers⟩

end Section

namespace ObjectRef

variable {σ : Type} {db : Database σ} {limit : Option Nat} {s : Session σ} {o : ObjectRef}
  {verbose : Bool} {r : Report} {info : TableInfo} {t : ResultSet}

/-- A step with an answer is one that the description takes. -/
theorem takes_of_answerTo? {step : DescribeStep} {answer : Answer}
    (hinfo : (s.run db limit (TableInfo.lookup o.oid).run).result = .ok info)
    (h : answerTo? step.label (s.exchanges db limit (o.describe verbose).run) = some answer) :
    info.planFacts.takes verbose step = true := by
  obtain ⟨y, hfind, -⟩ := Option.map_eq_some_iff.1 h
  have hlabel : y.query.label = step.label := by simpa using List.find?_some hfind
  have hsent : y.query ∈ (s.run db limit (o.describe verbose).run).calls.filterMap Call.query? := by
    rw [Session.queries_run]
    exact List.mem_map_of_mem (List.mem_of_find?_eq_some hfind)
  obtain ⟨step', hplanned, hquery⟩ :=
    List.mem_map.1 ((run_describe_ok db limit verbose hinfo).1.subset hsent)
  rw [← hquery, DescribeStep.label_query] at hlabel
  obtain rfl := DescribeStep.label_injective hlabel
  exact (List.mem_filter.1 hplanned).2

/-- A description that succeeds has its parts from the one answer to each of its queries. -/
theorem exists_parts_of_run (h : (s.run db limit (o.describe verbose).run).result = .ok r) :
    ∃ info definition parts, (s.run db limit (TableInfo.lookup o.oid).run).result = .ok info ∧
      Gives (fun q answer =>
        answerTo? q.label (s.exchanges db limit (o.describe verbose).run) = some answer)
        (Section.gather info o.schema) parts ∧
      r.footer = parts.assemble info verbose definition := by
  obtain ⟨info, hinfo, hr⟩ := exists_info_of_run h
  obtain ⟨_, footer, -, hfooter, rfl⟩ := gives_describeFrom.1 hr
  obtain ⟨definition, parts, -, hparts, rfl⟩ := Section.gives_footer.1 hfooter
  refine ⟨info, definition, parts, hinfo, hparts.mono fun q answer hanswer => ?_, rfl⟩
  exact hanswer.answerTo?_eq (nodup_labels_exchanges verbose hinfo)

/-- What a section has made of rows, it has made of those of the answer to its query. -/
theorem exists_read_of_gives {α β : Type} {step : DescribeStep} {q : Query} {otherwise b : β}
    {read : Row → Except Failure α} {f : List α → β}
    (hinfo : (s.run db limit (TableInfo.lookup o.oid).run).result = .ok info)
    (hq : q.label = step.label)
    (ht : answerTo? step.label (s.exchanges db limit (o.describe verbose).run) = some (.ok t))
    (h : Gives (fun q answer =>
        answerTo? q.label (s.exchanges db limit (o.describe verbose).run) = some answer)
      (Section.onlyIf (info.planFacts.takes verbose step) otherwise
        (Section.rowsOf q read >>= fun l => pure (f l))) b) :
    ∃ l, t.rows.mapM read = .ok l ∧ b = f l := by
  rw [takes_of_answerTo? hinfo ht, Section.gives_onlyIf, if_pos rfl, Section.gives_rowsOf, hq] at h
  obtain ⟨t', l, ht', hread, rfl⟩ := h
  obtain rfl : t' = t := Except.ok.inj (Option.some.inj (ht'.symm.trans ht))
  exact ⟨l, hread, rfl⟩

end ObjectRef

end CatalogShell
