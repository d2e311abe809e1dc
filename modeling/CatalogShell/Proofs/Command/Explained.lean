import CatalogShell.Proofs.Catalog.Resolve
import CatalogShell.Proofs.Command.Abandon
import CatalogShell.Proofs.Describe.Explained
import CatalogShell.Wire.Server

/-!
# Commands explain their failures

Every built-in command explains its failures by the queries that it has asked and their answers,
and a dispatch keeps the reason (`Registry.explains_dispatch`). `failures_name_their_query` draws
the conclusion for databases that name the query in the failures that they report
(`Database.NamesQueries`); a server does so, and so does a script that is written like that.
-/

namespace CatalogShell

open ColumnType (of orNull)
open Lookup (Explains gives_ask gives_askFirst)

variable {ys : List Exchange}

theorem PatternMode.explains_compile (mode : PatternMode) (args : String) :
    Explains ys (liftM (mode.compile args) : Lookup Pattern).run := by
  refine .lift fun e he => ?_
  unfold PatternMode.compile at he
  dsimp only at he
  split at he
  · cases he
    exact .unterminatedQuote args
  · cases he

/-! ## Handlers -/

namespace Handler

open PatternMode (explains_compile)

variable (mode : PatternMode) (args : String) (verbose : Bool)

theorem explains_listing (query : Pattern → Bool → Query) :
    Explains ys (listing query mode args verbose).run :=
  .seq (explains_compile mode args) fun _ => .seq (.lookupAsk _) fun _ => .pure _

theorem explains_tablespaces : Explains ys (tablespaces mode args verbose).run := by
  refine .seq (explains_compile mode args) fun _ => .bind (.askFirst _) fun zs row _ hrow =>
    .seq ?_ fun _ => .seq (.lookupAsk _) fun _ => .pure _
  obtain ⟨t, ht, hfirst⟩ := gives_askFirst.1 hrow
  exact .read ht (List.mem_of_head? hfirst) (.bool rfl rfl)

theorem explains_extensionOfRow {q : Query} {t : ResultSet} {row : Row}
    (known : columnTypes.lookup q.label = some [of .text, of .oid])
    (answered : Answered ys q (.ok t)) (hrow : row ∈ t.rows) :
    Explains ys (extensionOfRow q.label row).run :=
  .bind (.read answered hrow (.text known rfl)) fun _ _ hzs _ =>
  .seq (.read (answered.mono hzs) hrow (.oid known rfl)) fun _ =>
  .bind (.lookupAsk _) fun _ _ _ hmembers =>
  .seq (.readAll (gives_ask.1 hmembers) fun _ => .text? rfl rfl) fun _ => .pure _

/-- The rows of the extensions are read one by one, between the queries for their members. -/
theorem explains_extensions : Explains ys (extensions mode args verbose).run := by
  have known : columnTypes.lookup (Listing.findExtensions args).label =
      some [of .text, of .oid] := by
    unfold Listing.findExtensions
    split <;> rfl
  unfold extensions
  split
  · refine .bind (.lookupAsk _) fun zs found _ hfound => .seq (.mapM fun row hrow ws hws => ?_)
      fun _ => .pure _
    exact explains_extensionOfRow known ((gives_ask.1 hfound).mono hws) hrow
  · exact explains_listing _ _ _ _

theorem explains_functionDefinition :
    Explains ys (functionDefinition mode args verbose).run := by
  refine .bind (.askFirst _) fun zs row _ hrow => .seq ?_ fun oid =>
    .bind (.lookupAsk _) fun ws answer _ hanswer => ?_
  · obtain ⟨t, ht, hfirst⟩ := gives_askFirst.1 hrow
    exact .read ht (List.mem_of_head? hfirst) (.oid rfl rfl)
  · cases verbose with
    | false => exact .pure _
    | true =>
      cases hfirst : answer.first? with
      | none => exact .pure _
      | some row =>
        exact .seq (.read (gives_ask.1 hanswer) (List.mem_of_head? hfirst) (.text? rfl rfl))
          fun _ => .pure _

theorem explains_describe : Explains ys (describe mode args verbose).run := by
  refine .seq (explains_compile mode args) fun pattern => ?_
  by_cases h : args = ""
  · rw [if_pos h]
    exact .seq (.lookupAsk _) fun _ => .pure _
  · rw [if_neg h]
    exact .seq (Resolve.explains_required _ _ _) fun objects =>
      .seq (.mapM fun o _ _ _ => o.explains_describe verbose) fun _ => .pure _

theorem explains_help (entries : List (String × String)) :
    Explains ys (help entries mode args verbose).run :=
  .pure _

end Handler

/-- The command explains its failures. -/
def Command.Explains (c : Command) : Prop :=
  ∀ ys mode args verbose, Lookup.Explains ys (c.handler mode args verbose).run

theorem Command.explains_of_mem_builtin : ∀ c ∈ builtin, c.Explains := by
  have hlisting (query : Pattern → Bool → Query) (ys : List Exchange) (mode : PatternMode)
      (args : String) (verbose : Bool) :
      Lookup.Explains ys (Handler.listing query mode args verbose).run :=
    Handler.explains_listing mode args verbose query
  simp only [builtin, List.forall_mem_cons]
  exact ⟨hlisting _, hlisting _, hlisting _, hlisting _, hlisting _,
    fun _ => Handler.explains_tablespaces, hlisting _, hlisting _, hlisting _, hlisting _,
    hlisting _, hlisting _, hlisting _, hlisting _, fun _ => Handler.explains_extensions,
    hlisting _, fun _ => Handler.explains_functionDefinition,
    fun _ => Handler.explains_describe, fun _ => Handler.explains_describe, by simp⟩

namespace Registry

theorem explains_builtin : builtin.Has Command.Explains :=
  has_builtin Command.explains_of_mem_builtin fun _ _ mode args verbose =>
    Handler.explains_help mode args verbose _

/-- A dispatch of a command that explains its failures does so too. -/
theorem explains_dispatch {g : Registry} (h : g.Has Command.Explains) (mode : PatternMode)
    (input : String) : Explains ys (g.dispatch mode input).run := by
  unfold dispatch
  split
  · exact .pure _
  · next line _ =>
    split
    · exact .throw (.unknownCommand line.verb)
    · next r hr => exact .adapt line.verb (.map _ (h.lookup? hr _ _ _ _))

end Registry

/-! ## Databases that name the query -/

/-- If the failure names a query, it is one with the label; it is not over an answer. -/
structure Failure.Names (label : String) (e : Failure) : Prop where
  queryFailed : ∀ named reason, e.root = .queryFailed named reason → named = label
  notOverCell : ∀ named column expected, e.root ≠ .badCell named column expected

/-- From a state on, the failures that the database reports of a query name that query, if any. -/
def Database.NamesQueries {σ : Type} (db : Database σ) (d : σ) : Prop :=
  ∀ d', db.Reaches d d' → ∀ q e, (db.reply q d').1.answer = .error e → e.Names q.label

theorem Failure.names_queryFailed (label reason : String) :
    (Failure.queryFailed label reason).Names label where
  queryFailed _ _ h := by
    cases h
    rfl
  notOverCell _ _ _ h := by cases h

/-- A query that is given up is not named. -/
theorem Failure.names_of_isAbandoned {e : Failure} (h : e.isAbandoned = true) (label : String) :
    e.Names label := by
  have hroot := root_of_isAbandoned h
  constructor
  · intro named reason hnamed
    rw [← hroot, hnamed] at h
    cases h
  · intro named column expected hnamed
    rw [← hroot, hnamed] at h
    cases h

theorem Wire.Server.namesQueries (server : Server) : database.NamesQueries server := by
  intro server' _ q e h
  change (server'.execute q.sql q.params).1.mapError (Failure.queryFailed q.label) = .error e at h
  cases hexecute : (server'.execute q.sql q.params).1 with
  | ok t => simp [hexecute, Except.mapError] at h
  | error reason =>
    obtain rfl : Failure.queryFailed q.label reason = e := by
      simpa [hexecute, Except.mapError] using h
    exact Failure.names_queryFailed _ _

namespace Script

/-- The failures in the entries name the label of their entry, if any. -/
def NamesLabels (entries : List ScriptEntry) : Prop :=
  ∀ entry ∈ entries, ∀ e, entry.reply.answer = .error e → e.Names entry.label

theorem NamesLabels.take {entries : List ScriptEntry} (h : NamesLabels entries) (q : Query) :
    NamesLabels (take q entries).2 ∧
      ∀ reply ∈ (take q entries).1, ∀ e, reply.answer = .error e → e.Names q.label := by
  induction entries with
  | nil => exact ⟨h, by simp [Script.take]⟩
  | cons entry entries ih =>
    obtain ⟨hentry, hentries⟩ := List.forall_mem_cons.1 h
    unfold Script.take
    split
    · next hfits =>
      have hlabel : entry.label = q.label := by simp_all [ScriptEntry.fits]
      refine ⟨List.forall_mem_cons.2 ⟨hentry, hentries⟩, ?_⟩
      rintro reply ⟨⟩ e he
      exact hlabel ▸ hentry e he
    · exact ⟨List.forall_mem_cons.2 ⟨hentry, (ih hentries).1⟩, (ih hentries).2⟩

theorem namesQueries {script : Script} (h : NamesLabels script.entries) :
    database.NamesQueries script := by
  intro script' hreaches q e he
  have hkeeps : NamesLabels script'.entries := by
    clear he
    induction hreaches with
    | refl => exact h
    | reply _ q ih => exact (ih.take q).1
    | stop _ ih => exact ih
  have hreply := (hkeeps.take q).2
  simp only [database] at he
  cases htaken : (take q script'.entries).1 with
  | none => simp [htaken] at he
  | some reply =>
    rw [htaken] at he
    exact hreply reply htaken e he

end Script

/-! ## Failures of dispatches -/

theorem Failure.ExplainedBy.names {e : Failure} (h : e.ExplainedBy ys)
    (hys : ∀ y ∈ ys, ∀ e', y.answer = .error e' → e'.Names y.query.label) :
    (∀ label reason, e.root = .queryFailed label reason →
      ∃ y, ys.getLast? = some y ∧ y.query.label = label) ∧
    ∀ label column expected, e.root = .badCell label column expected →
      ∃ q t, Answered ys q (.ok t) ∧ q.label = label ∧ t.Faulty label column expected := by
  induction h with
  | @failed y e last h =>
    have hnames := hys y (List.mem_of_getLast? last) e h
    refine ⟨fun label reason he => ⟨y, last, (hnames.queryFailed _ _ he).symm⟩, ?_⟩
    exact fun _ _ _ he => absurd he (hnames.notOverCell _ _ _)
  | @noRows y t last h empty =>
    refine ⟨fun _ _ he => ?_, fun _ _ _ he => (nomatch he)⟩
    cases he
    exact ⟨y, last, rfl⟩
  | @badCell q t column expected answered faulty =>
    refine ⟨fun _ _ he => (nomatch he), fun _ _ _ he => ?_⟩
    cases he
    exact ⟨q, t, answered, rfl, faulty⟩
  | commandFailed verb _ ih => exact ih
  | _ => exact ⟨fun _ _ he => (nomatch he), fun _ _ _ he => (nomatch he)⟩

namespace Registry

/-- For every dispatch over a database that names the query in its failures: if the dispatch fails
because a query did, the failure names the last query that was sent. If it fails over a cell of an
answer, a query with the label that the failure names was sent, and its answer has a row that has no
value at the column, or NULL where the column has none, or a value that is not of its type. -/
theorem failures_name_their_query {σ : Type} (db : Database σ) (limit : Option Nat)
    (mode : PatternMode) (input : String) (s : Session σ) (h : db.NamesQueries s.database) :
    let x := (builtin.dispatch mode input).run
    let out := s.run db limit x
    ∀ e, out.result = .error e →
      (∀ label reason, e.root = .queryFailed label reason →
        ∃ q, (out.calls.filterMap Call.query?).getLast? = some q ∧ q.label = label) ∧
      ∀ label column expected, e.root = .badCell label column expected →
        ∃ q t, Call.query q ∈ out.calls ∧ q.label = label ∧
          Answered (s.exchanges db limit x) q (.ok t) ∧
          ∃ row ∈ t.rows, ∃ c, columnType? label column = some c ∧ c.kind.name = expected ∧
            ¬ c.Accepts (row.get? column) := by
  intro x out e he
  have hnamed : ∀ y ∈ s.exchanges db limit x, ∀ e', y.answer = .error e' →
      e'.Names y.query.label := by
    intro y hy e' he'
    obtain ⟨d, hd, hsettle⟩ := Session.exists_reply_of_mem_exchanges x s hy
    rw [he'] at hsettle
    obtain hreply | habandoned := (db.reply y.query d).1.settle_eq_or_isAbandoned limit
    · exact h d hd y.query e' (hreply ▸ hsettle.symm)
    · rw [← hsettle] at habandoned
      exact Failure.names_of_isAbandoned habandoned _
  have hexplains : Explains [] x := explains_dispatch explains_builtin mode input
  have hgive : Lookup.GivesUp x := givesUp_dispatch givesUp_builtin mode input
  obtain hcancelled | hexplained := hexplains.explainedBy_run hgive db limit s he
  · rw [hcancelled]
    exact ⟨fun _ _ hr => (nomatch hr), fun _ _ _ hr => (nomatch hr)⟩
  · obtain ⟨hqueryFailed, hbadCell⟩ := hexplained.names hnamed
    refine ⟨fun label reason hr => ?_, fun label column expected hr => ?_⟩
    · obtain ⟨y, hlast, hlabel⟩ := hqueryFailed label reason hr
      refine ⟨y.query, ?_, hlabel⟩
      rw [Session.queries_run, List.getLast?_map]
      exact congrArg (Option.map Exchange.query) hlast
    · obtain ⟨q, t, ⟨y, hy, rfl, hanswer⟩, hlabel, hfaulty⟩ := hbadCell label column expected hr
      refine ⟨y.query, t, ?_, hlabel, ⟨y, hy, rfl, hanswer⟩, hfaulty⟩
      rw [Session.calls_run]
      exact List.mem_flatMap.2 ⟨y, hy, List.mem_cons_self⟩

/-- A script with one extension, and the answer to the query for its members. -/
def extensionScript (members : Answer) : Script where
  entries := [
    { label := "list.extensions.find"
      reply := { answer := .ok { rows := [⟨[.text "hstore", .oid 7]⟩] } } },
    { label := "list.extensions.members", reply := { answer := members } }]

theorem namesQueries_extensionScript {members : Answer}
    (h : ∀ e, members = .error e → e.Names "list.extensions.members") :
    Script.database.NamesQueries (extensionScript members) :=
  Script.namesQueries
    (List.forall_mem_cons.2 ⟨fun _ he => (nomatch he), List.forall_mem_singleton.2 h⟩)

theorem failures_name_their_query_extensions :
    let refused : Answer := .error (.queryFailed "list.extensions.members" "permission denied")
    let malformed : Answer := .ok { rows := [⟨[.null]⟩, ⟨[.integer 3]⟩] }
    let run (members : Answer) := Session.run Script.database none
      (builtin.dispatch .strict "\\dx+").run { database := extensionScript members }
    Script.database.NamesQueries (extensionScript refused) ∧
    (run refused).result = .error (.commandFailed "\\dx"
      (.queryFailed "list.extensions.members" "permission denied")) ∧
    (∃ q, ((run refused).calls.filterMap Call.query?).getLast? = some q ∧
      q.label = "list.extensions.members") ∧
    Script.database.NamesQueries (extensionScript malformed) ∧
    (run malformed).result = .error (.commandFailed "\\dx"
      (.badCell "list.extensions.members" 0 "text")) ∧
    ∃ q, .query q ∈ (run malformed).calls ∧ q.label = "list.extensions.members" := by
  intro refused malformed run
  have hrefused : Script.database.NamesQueries (extensionScript refused) := by
    refine namesQueries_extensionScript fun e he => ?_
    obtain rfl := Except.error.inj he
    exact Failure.names_queryFailed _ _
  have hmalformed : Script.database.NamesQueries (extensionScript malformed) :=
    namesQueries_extensionScript fun _ he => (nomatch he)
  have hlast := (failures_name_their_query Script.database none .strict "\\dx+"
    { database := extensionScript refused } hrefused _ rfl).1 _ _ rfl
  obtain ⟨q, t, hsent, hlabel, -⟩ := (failures_name_their_query Script.database none .strict
    "\\dx+" { database := extensionScript malformed } hmalformed _ rfl).2 _ _ _ rfl
  exact ⟨hrefused, rfl, hlast, hmalformed, rfl, q, hsent, hlabel⟩

end Registry

end CatalogShell
