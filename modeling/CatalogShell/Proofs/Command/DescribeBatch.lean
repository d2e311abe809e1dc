import CatalogShell.Proofs.Catalog.Resolve
import CatalogShell.Proofs.Command.Abandon
import CatalogShell.Proofs.Describe.Cells
import CatalogShell.Proofs.Session.Batch

/-!
# Describing what a pattern matches

The command that describes relations asks which of them its arguments match, and then describes
these as a batch, in the order of the answer. The batch is told from the turns of the
descriptions: it gives the reports of all of them or the first failure, and nothing is sent for
an object after the one that failed (`Handler.describe_fails_fast`).

`ObjectRef.TakesTurn` says what a turn leaves in the log: all queries of the plan of its object if
it succeeds, and else those up to its failure, which may be over a query that was given up.
-/

namespace CatalogShell

variable {σ : Type} {db : Database σ} {limit : Option Nat} {s : Session σ}

/-! ## Turns -/

namespace ObjectRef

/-- The turn of the description of the object. -/
structure TakesTurn (verbose : Bool) (o : ObjectRef) (t : Turn σ (Except Failure Report)) :
    Prop where
  /-- A query that is given up is the last one, and is followed by the request to stop it. -/
  stopLaw : t.StopLaw
  /-- The report is about the object. -/
  report : ∀ r, t.outcome.result = .ok r → r.schema = o.schema ∧ r.name = o.name
  /-- The turn fails over the facts about the relation, or it follows the plan that these decide:
  up to its failure, or with all queries if it succeeds. -/
  follows :
    (∃ e, t.outcome.result = .error e ∧
      t.outcome.calls.filterMap Call.query? <+: [TableInfo.query o.oid]) ∨
    ∃ table row info, answerTo? DescribeStep.tableInfo.label t.exchanges = some (.ok table) ∧
      table.first? = some row ∧ TableInfo.ofRow o.oid row = .ok info ∧
      let planned := (info.planFacts.plan verbose).map (DescribeStep.query o info.kind verbose)
      t.outcome.calls.filterMap Call.query? <+: planned ∧
      ∀ r, t.outcome.result = .ok r → t.outcome.calls = planned.map .query

variable (db limit)

/-- The facts that a description goes on with are read from the answer to its first query. -/
theorem exists_row_of_run (verbose : Bool) {o : ObjectRef} {info : TableInfo}
    (h : (s.run db limit (TableInfo.lookup o.oid).run).result = .ok info) :
    ∃ table row, answerTo? DescribeStep.tableInfo.label
        (s.exchanges db limit (o.describe verbose).run) = some (.ok table) ∧
      table.first? = some row ∧ TableInfo.ofRow o.oid row = .ok info := by
  have hlookup := (TableInfo.asks_lookup o.oid).givesUp.mayReturn_run db limit h
  obtain ⟨row, hrow, hread⟩ := Lookup.gives_bind.1 hlookup
  obtain ⟨table, ⟨y, hy, hquery, hanswer⟩, hfirst⟩ := Lookup.gives_askFirst.1 hrow
  have htable : Answered (s.exchanges db limit (o.describe verbose).run) (TableInfo.query o.oid)
      (.ok table) := by
    rw [describe_eq, Session.exchanges_bind h]
    exact ⟨y, List.mem_append_left _ hy, hquery, hanswer⟩
  exact ⟨table, row, htable.answerTo?_eq (nodup_labels_exchanges verbose h), hfirst,
    Lookup.gives_lift.1 hread⟩

theorem takesTurn (verbose : Bool) (o : ObjectRef) (s : Session σ) :
    TakesTurn verbose o ⟨s.exchanges db limit (o.describe verbose).run,
      s.run db limit (o.describe verbose).run⟩ where
  stopLaw := Session.stopLaw (givesUp_describe verbose o) s
  report r hr := by
    obtain ⟨info, -, hgives⟩ := exists_info_of_run hr
    obtain ⟨rows, footer, -, -, rfl⟩ := gives_describeFrom.1 hgives
    exact ⟨rfl, rfl⟩
  follows := by
    cases hinfo : (s.run db limit (TableInfo.lookup o.oid).run).result with
    | error e => exact .inl ⟨e, run_describe_error db limit verbose hinfo⟩
    | ok info =>
      obtain ⟨table, row, htable, hrow, hread⟩ := exists_row_of_run db limit verbose hinfo
      obtain ⟨hpre, hall⟩ := run_describe_ok db limit verbose hinfo
      refine .inr ⟨table, row, info, htable, hrow, hread, hpre, fun r hr => ?_⟩
      have hcalls := Session.calls_of_ok (givesUp_describe verbose o) hr
      rwa [hall r hr] at hcalls

theorem forall₂_takesTurn (verbose : Bool) (os : List ObjectRef) (s : Session σ) :
    List.Forall₂ (TakesTurn verbose) os
      (s.turns db limit (os.map fun o => (o.describe verbose).run)) := by
  induction os generalizing s with
  | nil => exact .nil
  | cons o os ih => exact .cons (takesTurn db limit verbose o s) (ih _)

end ObjectRef

/-! ## Commands -/

namespace Handler

/-- The objects are described in turns, up to the first that fails. -/
structure DescribesInTurn (verbose : Bool) (os : List ObjectRef)
    (turns : List (Turn σ (Except Failure Report)))
    (out : Outcome σ (Except Failure CommandResult)) (resolving : Query) : Prop where
  each : List.Forall₂ (ObjectRef.TakesTurn verbose) os turns
  /-- If every turn succeeds, there is a report for each object. -/
  reports : ∀ rs, List.Forall₂ (fun turn r => turn.outcome.result = .ok r) turns rs →
    out.result = .ok (.reports rs) ∧
    List.Forall₂ (fun o r => r.schema = o.schema ∧ r.name = o.name) os rs ∧
    out.calls = .query resolving :: turns.flatMap (·.outcome.calls)
  /-- The first turn that fails is the last one. -/
  fails : ∀ before failing after e, turns = before ++ failing :: after →
    (∀ turn ∈ before, ∃ r, turn.outcome.result = .ok r) → failing.outcome.result = .error e →
    out.result = .error e ∧
    out.calls =
      .query resolving :: (before.flatMap (·.outcome.calls) ++ failing.outcome.calls)

variable {mode : PatternMode} {args : String} {p : Pattern} (verbose : Bool)

theorem describe_of_compile_error {e : Failure} (h : mode.compile args = .error e) :
    describe mode args verbose = throw e := by
  simp only [describe, h]
  rfl

/-- Without arguments the command lists relations. -/
theorem describe_of_eq_empty (h : mode.compile args = .ok p) (hargs : args = "") :
    describe mode args verbose =
      Lookup.ask (Listing.relations p verbose listedKinds) >>= fun t => pure (.rows t) := by
  subst hargs
  simp only [describe, h, ↓reduceIte]
  rfl

/-- With arguments it describes what they match. -/
theorem describe_of_ne_empty (h : mode.compile args = .ok p) (hargs : args ≠ "") :
    describe mode args verbose = Resolve.required args p [] >>= fun os =>
      describeAll verbose os >>= fun rs => pure (.reports rs) := by
  simp only [describe, h, hargs, ↓reduceIte]
  rfl

theorem label_relations (p : Pattern) (kinds : List RelationKind) :
    (Listing.relations p verbose kinds).label = "list.objects" := by
  simp only [Listing.relations, Query.label_push, Query.label_named, Query.label_inSchema,
    Query.label_ofKinds, Query.label_pushIf]

/-- The command fails with what its arguments do not resolve for. -/
theorem run_describe_of_unresolved {e : Failure} {calls : List Call} {session : Session σ}
    (hp : mode.compile args = .ok p) (hargs : args ≠ "")
    (h : s.run db limit (Resolve.required args p []).run = ⟨.error e, calls, session⟩) :
    (s.run db limit (describe mode args verbose).run).result = .error e ∧
      (s.run db limit (describe mode args verbose).run).calls = calls := by
  rw [describe_of_ne_empty verbose hp hargs, Session.run_bind_error _ (congrArg Outcome.result h),
    h]
  exact ⟨rfl, rfl⟩

/-- What the arguments resolve to is described. -/
theorem run_describe_of_resolved {os : List ObjectRef} {calls : List Call} {session : Session σ}
    (hp : mode.compile args = .ok p) (hargs : args ≠ "")
    (h : s.run db limit (Resolve.required args p []).run = ⟨.ok os, calls, session⟩) :
    let batch := session.run db limit (describeAll verbose os).run
    (s.run db limit (describe mode args verbose).run).result = batch.result.map .reports ∧
      (s.run db limit (describe mode args verbose).run).calls = calls ++ batch.calls := by
  rw [describe_of_ne_empty verbose hp hargs, Session.run_bind_ok _ (congrArg Outcome.result h), h,
    Session.run_bind_pure]
  exact ⟨rfl, rfl⟩

theorem describesInTurn {os : List ObjectRef} {q : Query} {session : Session σ}
    (hp : mode.compile args = .ok p) (hargs : args ≠ "")
    (h : s.run db limit (Resolve.required args p []).run = ⟨.ok os, [.query q], session⟩) :
    DescribesInTurn verbose os (session.turns db limit (os.map fun o => (o.describe verbose).run))
      (s.run db limit (describe mode args verbose).run) q := by
  obtain ⟨hresult, hcalls⟩ := run_describe_of_resolved verbose hp hargs h
  have hturns := ObjectRef.forall₂_takesTurn db limit verbose os session
  refine ⟨hturns, fun rs hrs => ?_, fun before failing after e hsplit hbefore hfailing => ?_⟩
  · obtain ⟨hbatch, hlog⟩ := Session.run_mapM_ok hrs
    have hlength := hturns.length_eq.trans hrs.length_eq
    refine ⟨by rw [hresult, describeAll, hbatch]; rfl, ?_, by rw [hcalls, describeAll, hlog]; rfl⟩
    exact List.forall₂_of_length_eq_of_get hlength fun k hk hk' =>
      (hturns.get hk (hturns.length_eq ▸ hk)).report _ (hrs.get (hturns.length_eq ▸ hk) hk')
  · obtain ⟨hbatch, hlog⟩ := Session.run_mapM_error hsplit hbefore hfailing
    exact ⟨by rw [hresult, describeAll, hbatch]; rfl, by rw [hcalls, describeAll, hlog]; rfl⟩

/-- Whatever the database does, the command lists or describes. Without arguments it sends at most
one query, the listing. Else it asks what its arguments match, and sends nothing more if that
fails, if a row of the answer is malformed or if there is none. The objects are described in
order: the command gives one report for each of them if all descriptions succeed; else it fails
as the first of them that fails, and its log ends with what was sent for that one. -/
theorem describe_fails_fast (db : Database σ) (limit : Option Nat) (s : Session σ)
    (mode : PatternMode) (args : String) (verbose : Bool) :
    let out := s.run db limit (describe mode args verbose).run
    (∀ e, mode.compile args = .error e → out.result = .error e ∧ out.calls = []) ∧
    ∀ p, mode.compile args = .ok p →
      (args = "" →
        let list := Listing.relations p verbose listedKinds
        list.label = "list.objects" ∧ out.calls.filterMap Call.query? <+: [list] ∧
        out.result = (s.send db limit list).result.map .rows) ∧
      (args ≠ "" →
        let resolved := s.send db limit (Resolve.query p [])
        (∀ e, resolved.result = .error e → out.result = .error e ∧ out.calls = resolved.calls) ∧
        ∀ t, resolved.result = .ok t →
          ((∃ row ∈ t.rows, ∀ o, ¬ Resolve.Stands row o) →
            (∃ column expected, out.result = .error (.badCell Resolve.label column expected)) ∧
            out.calls = [.query (Resolve.query p [])]) ∧
          (t.rows = [] → out.result = .error (.objectNotFound args) ∧
            out.calls = [.query (Resolve.query p [])]) ∧
          ∀ os, List.Forall₂ Resolve.Stands t.rows os → os ≠ [] →
            DescribesInTurn verbose os
              (resolved.session.turns db limit (os.map fun o => (o.describe verbose).run)) out
              (Resolve.query p [])) := by
  intro out
  refine ⟨fun e he => ?_, fun p hp => ⟨fun hargs => ?_, fun hargs => ⟨fun e he => ?_,
    fun t ht => ⟨?_, ?_, fun os hos hne => ?_⟩⟩⟩⟩
  · simp only [out, describe_of_compile_error verbose he]
    exact ⟨rfl, rfl⟩
  · refine ⟨label_relations verbose p listedKinds, ?_, ?_⟩
    · simp only [out, describe_of_eq_empty verbose hp hargs, Session.run_bind_pure, Session.run_ask]
      exact Session.queries_send db limit _ s
    · simp only [out, describe_of_eq_empty verbose hp hargs, Session.run_bind_pure, Session.run_ask]
  · exact run_describe_of_unresolved verbose hp hargs (Resolve.run_required_error args he)
  · rintro ⟨row, hrow, hmalformed⟩
    obtain ⟨column, expected, hfound⟩ := Resolve.found_of_malformed hrow hmalformed
    have hrequired := Resolve.run_required_ok args ht
    rw [hfound] at hrequired
    obtain ⟨hresult, hcalls⟩ := run_describe_of_unresolved verbose hp hargs hrequired
    exact ⟨⟨column, expected, hresult⟩, hcalls⟩
  · intro hnone
    have hstands : List.Forall₂ Resolve.Stands t.rows [] := by
      rw [hnone]
      exact .nil
    have hrequired := Resolve.run_required_ok args ht
    rw [Resolve.found_of_stands hstands, if_pos rfl] at hrequired
    exact run_describe_of_unresolved verbose hp hargs hrequired
  · have hrequired := Resolve.run_required_ok args ht
    rw [Resolve.found_of_stands hos, if_neg hne] at hrequired
    exact describesInTurn verbose hp hargs hrequired

/-- The second of three objects is gone when it is described; nothing is asked about the third. -/
example :
    let answer (label : String) (rows : List Row) : ScriptEntry :=
      { label, reply := { answer := .ok { rows } } }
    let s : Session Script := ⟨{ entries := [
      answer "resolve.relations" [
        ⟨[.oid 1, .text "public", .text "city", .text "v"]⟩,
        ⟨[.oid 2, .null, .text "gone", .text "r"]⟩,
        ⟨[.oid 3, .text "public", .text "town", .text "v"]⟩],
      { answer "describe.table_info" [⟨[.integer 0, .text "v", .boolean false, .boolean false,
        .boolean false, .null, .null, .null, .text "p", .boolean false]⟩] with oid := some 1 }] },
      false⟩
    let out := s.run Script.database none (describe .lenient "*" false).run
    out.result = .error (.queryFailed "describe.table_info" "query returned no rows") ∧
      (out.calls.filterMap Call.query?).map Query.label = ["resolve.relations",
        "describe.table_info", "describe.columns", "describe.table_info"] :=
  ⟨rfl, rfl⟩

end Handler

end CatalogShell
