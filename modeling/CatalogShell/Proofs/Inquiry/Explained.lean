import CatalogShell.Proofs.Inquiry.MayReturn
import CatalogShell.Proofs.Value.Expected

/-!
# Failures that the exchanges explain

A failure is explained by exchanges (`Failure.ExplainedBy`) if their last query failed for that
cause or had no rows where one is needed, or if one of their answers has a cell that does not fit,
at the query and the column that the failure names. A failure over the input alone needs no query.

A lookup explains its failures (`Lookup.Explains`) if each of them is explained by the queries it has
asked until then. What a lookup reads is known from the answers that it got, so that a row may be
read long after its query. `Explains.explainedBy_run` draws the conclusion for a run.
-/

namespace CatalogShell

/-- A row of the answer has no cell at the column that fits into it. -/
def ResultSet.Faulty (t : ResultSet) (label : String) (column : Nat) (expected : String) : Prop :=
  ∃ row ∈ t.rows, ∃ c, columnType? label column = some c ∧ c.kind.name = expected ∧
    ¬ c.Accepts (row.get? column)

/-- The exchanges are the reason for the failure, or it is one over the input alone. -/
inductive Failure.ExplainedBy (ys : List Exchange) : Failure → Prop where
  | failed {y : Exchange} {e : Failure} (last : ys.getLast? = some y) (h : y.answer = .error e) :
      ExplainedBy ys e
  | noRows {y : Exchange} {t : ResultSet} (last : ys.getLast? = some y) (h : y.answer = .ok t)
      (empty : t.rows = []) :
      ExplainedBy ys (.queryFailed y.query.label "query returned no rows")
  | badCell {q : Query} {t : ResultSet} {column : Nat} {expected : String}
      (answered : Answered ys q (.ok t)) (faulty : t.Faulty q.label column expected) :
      ExplainedBy ys (.badCell q.label column expected)
  | unterminatedQuote (pattern : String) : ExplainedBy ys (.unterminatedQuote pattern)
  | objectNotFound (name : String) : ExplainedBy ys (.objectNotFound name)
  | unknownCommand (verb : String) : ExplainedBy ys (.unknownCommand verb)
  | commandFailed (verb : String) {cause : Failure} (h : ExplainedBy ys cause) :
      ExplainedBy ys (.commandFailed verb cause)

theorem Answered.mono {ys zs : List Exchange} {q : Query} {answer : Answer}
    (h : Answered ys q answer) (hsub : ys ⊆ zs) : Answered zs q answer :=
  h.imp fun _ hy => ⟨hsub hy.1, hy.2⟩

namespace Lookup

variable {α β : Type}

/-- The failures of the lookup are explained by its exchanges and those before it. -/
inductive Explains : List Exchange → Inquiry (Except Failure α) → Prop where
  | ok {ys : List Exchange} (a : α) : Explains ys (.done (.ok a))
  | error {ys : List Exchange} {e : Failure} (h : e.ExplainedBy ys) : Explains ys (.done (.error e))
  | ask {ys : List Exchange} {q : Query} {resume : Answer → Inquiry (Except Failure α)}
      (next : ∀ answer cancelled, Explains (ys ++ [⟨q, answer, cancelled⟩]) (resume answer)) :
      Explains ys (.ask q resume)

namespace Explains

open Inquiry (MayReturn)

variable {ys : List Exchange}

/-! ## Ways to build lookups -/

theorem pure (a : α) : Explains ys (Pure.pure a : Lookup α).run := .ok a

theorem throw {e : Failure} (h : e.ExplainedBy ys) :
    Explains ys (MonadExcept.throw e : Lookup α).run :=
  .error h

theorem lift {r : Except Failure α} (h : ∀ e, r = .error e → e.ExplainedBy ys) :
    Explains ys (liftM r : Lookup α).run := by
  cases r with
  | ok a => exact .ok a
  | error e => exact .error (h e rfl)

theorem lookupAsk (q : Query) : Explains ys (Lookup.ask q).run := by
  refine .ask fun answer _ => ?_
  cases answer with
  | ok t => exact .ok t
  | error e => exact .error (.failed List.getLast?_concat rfl)

/-- What follows knows the exchanges so far. They are the reason for the result that it goes on
with. -/
theorem bind {x : Lookup α} {f : α → Lookup β} (hx : Explains ys x.run)
    (hf : ∀ zs a, ys ⊆ zs → Gives (Answered zs) x a → Explains zs (f a).run) :
    Explains ys (x >>= f).run := by
  unfold Gives at hf
  change Explains ys (Inquiry.bind x.run (ExceptT.bindCont f))
  generalize x.run = t at hx hf ⊢
  induction hx with
  | ok a => exact hf _ a (List.Subset.refl _) (.done _)
  | error h => exact .error h
  | @ask ys q resume _ ih =>
    refine .ask fun answer cancelled => ih answer cancelled fun zs a hsub ha => ?_
    have hy : Answered zs q answer :=
      ⟨⟨q, answer, cancelled⟩, hsub List.mem_concat_self, rfl, rfl⟩
    exact hf zs a (List.Subset.trans (List.subset_append_left ys _) hsub) (.ask hy ha)

/-- What follows explains its failures whatever was exchanged before. -/
theorem seq {x : Lookup α} {f : α → Lookup β} (hx : Explains ys x.run)
    (hf : ∀ {zs : List Exchange} (a : α), Explains zs (f a).run) : Explains ys (x >>= f).run :=
  bind hx fun _ a _ _ => hf a

theorem map {x : Lookup α} (f : α → β) (hx : Explains ys x.run) : Explains ys (f <$> x).run := by
  rw [← bind_pure_comp]
  exact seq hx fun a => pure (f a)

/-- A failure under the name of a command has the same reason. -/
theorem adapt {x : Lookup α} (verb : String) (hx : Explains ys x.run) :
    Explains ys (ExceptT.adapt (Failure.commandFailed verb) x).run := by
  change Explains ys (Inquiry.bind x.run (Inquiry.done ∘ Except.mapError (.commandFailed verb)))
  generalize x.run = t at hx ⊢
  induction hx with
  | ok a => exact .ok a
  | error h => exact .error (.commandFailed verb h)
  | ask _ ih => exact .ask ih

theorem mapM {f : α → Lookup β} {as : List α}
    (hf : ∀ a ∈ as, ∀ zs, ys ⊆ zs → Explains zs (f a).run) : Explains ys (as.mapM f).run := by
  induction as generalizing ys with
  | nil => exact pure []
  | cons a as ih =>
    rw [List.mapM_cons]
    refine bind (hf a List.mem_cons_self ys (List.Subset.refl ys)) fun zs b hsub _ => ?_
    refine seq (ih fun a' ha' ws hws => ?_) fun bs => pure (b :: bs)
    exact hf a' (List.mem_cons_of_mem a ha') ws (List.Subset.trans hsub hws)

theorem askFirst? (q : Query) : Explains ys (Lookup.askFirst? q).run :=
  seq (lookupAsk q) fun _ => pure _

theorem askFirst (q : Query) : Explains ys (Lookup.askFirst q).run := by
  refine .ask fun answer _ => ?_
  cases answer with
  | error e => exact .error (.failed List.getLast?_concat rfl)
  | ok t =>
    obtain ⟨columns, rows⟩ := t
    cases rows with
    | nil => exact .error (.noRows List.getLast?_concat rfl rfl)
    | cons row rows => exact .ok row

/-! ## Reading answers -/

variable {q : Query} {t : ResultSet}

/-- The reading of a row that an answer has. -/
theorem read {row : Row} {r : Except Failure α} (answered : Answered ys q (.ok t))
    (hrow : row ∈ t.rows) (hr : BlamesFault q.label row r) : Explains ys (liftM r : Lookup α).run := by
  refine lift fun e he => ?_
  obtain ⟨column, c, hc, rfl, hcell⟩ := hr e he
  exact .badCell answered ⟨row, hrow, c, hc, rfl, hcell⟩

/-- The reading of all rows of an answer. -/
theorem readAll {read : Row → Except Failure α} (answered : Answered ys q (.ok t))
    (hread : ∀ row, BlamesFault q.label row (read row)) :
    Explains ys (liftM (t.rows.mapM read) : Lookup (List α)).run := by
  refine lift fun e he => ?_
  obtain ⟨row, hrow, he⟩ := Reading.exists_of_mapM_eq_error he
  obtain ⟨column, c, hc, rfl, hcell⟩ := hread row e he
  exact .badCell answered ⟨row, hrow, c, hc, rfl, hcell⟩

/-! ## Runs -/

/-- The failure of a run is explained by its exchanges, unless it is that a query was not sent for
the cancelled token. -/
theorem explainedBy_run {σ : Type} {x : Inquiry (Except Failure α)} (hx : Explains ys x)
    (hgive : GivesUp x) (db : Database σ) (limit : Option Nat) (s : Session σ) {e : Failure}
    (h : (s.run db limit x).result = .error e) :
    e.root = .cancelled ∨ e.ExplainedBy (ys ++ s.exchanges db limit x) := by
  induction hx generalizing s with
  | ok a => cases h
  | error hexplained =>
    cases h
    exact .inr (by simpa [Session.exchanges] using hexplained)
  | @ask ys q resume _ ih =>
    cases hgive with
    | ask stops next =>
      cases hc : s.cancelled with
      | true =>
        obtain ⟨e', hresume, hroot⟩ := stops .cancelled rfl
        rw [Session.run, Session.send_of_cancelled q hc, hresume] at h
        cases h
        exact .inl hroot
      | false =>
        have hrest := ih _ (s.send db limit q).session.cancelled (next _) _ h
        simpa only [Session.exchanges, hc, Bool.false_eq_true, ↓reduceIte,
          List.append_assoc, List.singleton_append] using hrest

end Explains

end Lookup

end CatalogShell
