import CatalogShell.Proofs.Inquiry.GivesUp

/-!
# Lookups that ask by a plan

A lookup asks by a plan (`Lookup.Asks`) if it asks the queries of the plan in order, whatever the
answers are, until it fails; all of them if it succeeds. Plans of lookups that follow each other
are appended, so that the plan of a long lookup is read off its text.

`Asks.queries_run`: a run sends a prefix of the plan, and the whole plan if it succeeds. This
needs the lookup to give up with its queries, because a query that is not sent for the cancelled
token may not be followed by one that is; so the plan includes it.
-/

namespace CatalogShell

namespace Lookup

variable {α β : Type}

/-- The lookup asks the queries of a plan in order until it fails, and all of them if it does
not. It gives up with each of them. -/
inductive Asks : Inquiry (Except Failure α) → List Query → Prop where
  | ok (a : α) : Asks (.done (.ok a)) []
  | error (e : Failure) (plan : List Query) : Asks (.done (.error e)) plan
  | ask {q : Query} {resume : Answer → Inquiry (Except Failure α)} {plan : List Query}
      (stops : Stops resume) (next : ∀ answer, Asks (resume answer) plan) :
      Asks (.ask q resume) (q :: plan)

namespace Asks

theorem givesUp {x : Inquiry (Except Failure α)} {plan : List Query} (h : Asks x plan) :
    GivesUp x := by
  induction h with
  | ok a => exact .done _
  | error e plan => exact .done _
  | ask stops _ ih => exact .ask stops ih

theorem of_eq {x : Inquiry (Except Failure α)} {plan plan' : List Query} (h : Asks x plan)
    (e : plan = plan') : Asks x plan' := e ▸ h

/-! ## Ways to build lookups -/

theorem pure (a : α) : Asks (Pure.pure a : Lookup α).run [] := .ok a

theorem lift (r : Except Failure α) : Asks (liftM r : Lookup α).run [] := by
  cases r with
  | ok a => exact .ok a
  | error e => exact .error e []

theorem lookupAsk (q : Query) : Asks (Lookup.ask q).run [q] := by
  refine .ask (fun e he => ⟨e, rfl, Failure.root_of_isAbandoned he⟩) fun answer => ?_
  cases answer with
  | ok t => exact .ok t
  | error e => exact .error e []

theorem bind {x : Lookup α} {f : α → Lookup β} {first rest : List Query} (hx : Asks x.run first)
    (hf : ∀ a, Asks (f a).run rest) : Asks (x >>= f).run (first ++ rest) := by
  change Asks (Inquiry.bind x.run (ExceptT.bindCont f)) _
  generalize x.run = t at hx ⊢
  induction hx with
  | ok a => exact hf a
  | error e plan => exact .error e _
  | ask stops _ ih => exact .ask (stops.bind f) ih

/-- What asks nothing more does not change the plan. -/
theorem bind_nil {x : Lookup α} {f : α → Lookup β} {plan : List Query} (hx : Asks x.run plan)
    (hf : ∀ a, Asks (f a).run []) : Asks (x >>= f).run plan := by
  simpa using bind hx hf

theorem askFirst? (q : Query) : Asks (Lookup.askFirst? q).run [q] :=
  bind_nil (lookupAsk q) fun _ => pure _

theorem askFirst (q : Query) : Asks (Lookup.askFirst q).run [q] := by
  refine bind_nil (askFirst? q) fun row => ?_
  cases row with
  | some row => exact pure row
  | none => exact .error _ []

/-- A single query whose failures are handled without asking, but for its being given up. -/
theorem tryCatch_ask {q : Query} {read : ResultSet → Except Failure α} {handle : Failure → Lookup α}
    (rethrows : ∀ e, e.isAbandoned = true → handle e = throw e)
    (hf : ∀ e, Asks (handle e).run []) :
    Asks (tryCatch (Lookup.ask q >>= fun t => liftM (read t)) handle).run [q] := by
  rw [ExceptT.run_tryCatch]
  refine .ask (fun e he => ⟨e, ?_, Failure.root_of_isAbandoned he⟩) fun answer => ?_
  · change (handle e).run = _
    rw [rethrows e he]
    rfl
  · cases answer with
    | error e => exact hf e
    | ok t =>
      change Asks (Inquiry.bind (.done (read t)) _) []
      cases read t with
      | ok a => exact .ok a
      | error e => exact hf e

/-! ## Runs -/

theorem queries_run {σ : Type} {x : Inquiry (Except Failure α)} {plan : List Query}
    (h : Asks x plan) (db : Database σ) (limit : Option Nat) (s : Session σ) :
    (s.run db limit x).calls.filterMap Call.query? <+: plan ∧
      ∀ a, (s.run db limit x).result = .ok a →
        (s.run db limit x).calls.filterMap Call.query? = plan := by
  rw [Session.queries_run]
  induction h generalizing s with
  | ok a => simp [Session.exchanges]
  | error e plan => simp [Session.exchanges, Session.run]
  | @ask q resume plan stops _ ih =>
    cases hc : s.cancelled with
    | true =>
      obtain ⟨e', hresume, -⟩ := stops .cancelled rfl
      simp [Session.exchanges, Session.run, hc, Session.send_of_cancelled q hc, hresume]
    | false =>
      obtain ⟨hpre, hall⟩ := ih (s.send db limit q).result (s.send db limit q).session
      simp only [Session.exchanges, Session.run, hc, Bool.false_eq_true, ↓reduceIte,
        List.map_cons, List.cons_prefix_cons, List.cons.injEq, true_and]
      exact ⟨hpre, hall⟩

end Asks

end Lookup

end CatalogShell
