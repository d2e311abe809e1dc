import CatalogShell.Proofs.Session.Exchange

/-!
# Lookups that give up

A lookup gives up with its queries (`Lookup.GivesUp`) if it fails as soon as one of them is given
up, for that very cause and without asking more. Most ways to build lookups keep this property,
so that it is proved of a command by following its text.

`GivesUp.exchanges_run` says what it means for a run: a query that was given up is the last one
that was sent, and its cause is the root of the failure.
-/

namespace CatalogShell

namespace Failure

theorem root_of_isAbandoned {e : Failure} (h : e.isAbandoned = true) : e.root = e := by
  cases e <;> simp_all [isAbandoned, root]

end Failure

theorem Answer.exists_of_isAbandoned {a : Answer} (h : a.isAbandoned = true) :
    ∃ e, a = .error e ∧ e.isAbandoned = true := by
  cases a with
  | ok t => simp [isAbandoned] at h
  | error e => exact ⟨e, rfl, h⟩

namespace Lookup

variable {α β : Type}

/-- If the query is given up, what follows is a failure for that cause, without a query. -/
def Stops (resume : Answer → Inquiry (Except Failure α)) : Prop :=
  ∀ e, e.isAbandoned = true → ∃ e', resume (.error e) = .done (.error e') ∧ e'.root = e

theorem Stops.bind {resume : Answer → Inquiry (Except Failure α)} (h : Stops resume)
    (f : α → Lookup β) : Stops fun answer => (resume answer).bind (ExceptT.bindCont f) := by
  intro e he
  obtain ⟨e', hr, hroot⟩ := h e he
  exact ⟨e', by simp only [hr]; rfl, hroot⟩

/-- Nothing is asked after a query of the lookup that is given up. -/
inductive GivesUp : Inquiry (Except Failure α) → Prop where
  | done (r : Except Failure α) : GivesUp (.done r)
  | ask {q : Query} {resume : Answer → Inquiry (Except Failure α)} (stops : Stops resume)
      (next : ∀ answer, GivesUp (resume answer)) : GivesUp (.ask q resume)

namespace GivesUp

/-! ## Ways to build lookups -/

theorem pure (a : α) : GivesUp (Pure.pure a : Lookup α).run := .done _

theorem throw (e : Failure) : GivesUp (MonadExcept.throw e : Lookup α).run := .done _

theorem lift (r : Except Failure α) : GivesUp (liftM r : Lookup α).run := .done _

theorem lookupAsk (q : Query) : GivesUp (Lookup.ask q).run :=
  .ask (fun e he => ⟨e, rfl, Failure.root_of_isAbandoned he⟩) fun _ => .done _

theorem bind {x : Lookup α} {f : α → Lookup β} (hx : GivesUp x.run)
    (hf : ∀ a, GivesUp (f a).run) : GivesUp (x >>= f).run := by
  change GivesUp (Inquiry.bind x.run (ExceptT.bindCont f))
  generalize x.run = t at hx ⊢
  induction hx with
  | done r =>
    cases r with
    | ok a => exact hf a
    | error e => exact .done _
  | ask stops _ ih => exact .ask (stops.bind f) ih

theorem map {x : Lookup α} (f : α → β) (hx : GivesUp x.run) : GivesUp (f <$> x).run := by
  rw [← bind_pure_comp]
  exact bind hx fun a => pure (f a)

/-- The cause of a failure may be kept under another failure. -/
theorem adapt {x : Lookup α} {f : Failure → Failure} (hf : ∀ e, (f e).root = e.root)
    (hx : GivesUp x.run) : GivesUp (ExceptT.adapt f x).run := by
  change GivesUp (Inquiry.bind x.run (Inquiry.done ∘ Except.mapError f))
  generalize x.run = t at hx ⊢
  induction hx with
  | done r => exact .done _
  | ask stops _ ih =>
    refine .ask (fun e he => ?_) ih
    obtain ⟨e', hr, hroot⟩ := stops e he
    exact ⟨f e', by rw [hr]; rfl, by rw [hf, hroot]⟩

theorem askFirst? (q : Query) : GivesUp (Lookup.askFirst? q).run :=
  bind (lookupAsk q) fun _ => pure _

theorem askFirst (q : Query) : GivesUp (Lookup.askFirst q).run := by
  refine bind (askFirst? q) fun row => ?_
  cases row with
  | some row => exact pure row
  | none => exact throw _

theorem mapM {f : α → Lookup β} (hf : ∀ a, GivesUp (f a).run) (as : List α) :
    GivesUp (as.mapM f).run := by
  induction as with
  | nil => exact pure []
  | cons a as ih =>
    rw [List.mapM_cons]
    exact bind (hf a) fun b => bind ih fun bs => pure (b :: bs)

end GivesUp

/-! ## Runs -/

/-- How the exchanges of a run go that gives up with its queries: none of them was given up, or
only the last one was, and the run failed for that cause. -/
inductive Ending (result : Except Failure α) : List Exchange → Prop where
  | answered {ys : List Exchange} (h : ∀ y ∈ ys, y.answer.isAbandoned = false) : Ending result ys
  | abandoned {ys : List Exchange} {y : Exchange} {e e' : Failure}
      (h : ∀ y ∈ ys, y.answer.isAbandoned = false) (hy : y.answer = .error e)
      (he : e.isAbandoned = true) (hr : result = .error e') (hroot : e'.root = e) :
      Ending result (ys ++ [y])

theorem Ending.cons {result : Except Failure α} {ys : List Exchange} (h : Ending result ys)
    {y : Exchange} (hy : y.answer.isAbandoned = false) : Ending result (y :: ys) := by
  cases h with
  | answered h => exact .answered (by simpa [hy] using h)
  | @abandoned ys _ _ _ h ha he hr hroot =>
    rw [← List.cons_append]
    exact .abandoned (by simpa [hy] using h) ha he hr hroot

theorem GivesUp.exchanges_run {σ : Type} {x : Inquiry (Except Failure α)} (h : GivesUp x)
    (db : Database σ) (limit : Option Nat) (s : Session σ) :
    Ending (s.run db limit x).result (s.exchanges db limit x) := by
  induction h generalizing s with
  | done r => exact .answered (by simp [Session.exchanges])
  | @ask q resume stops _ ih =>
    cases hc : s.cancelled with
    | true =>
      rw [(Session.run_of_cancelled db limit (.ask q resume) hc).1]
      exact .answered (by simp)
    | false =>
      simp only [Session.exchanges, hc, Bool.false_eq_true, ↓reduceIte, Session.run]
      cases ha : (s.send db limit q).result.isAbandoned with
      | false => exact (ih _ _).cons ha
      | true =>
        obtain ⟨e, he, hab⟩ := Answer.exists_of_isAbandoned ha
        obtain ⟨e', hresume, hroot⟩ := stops e hab
        rw [he, hresume]
        have hnone : ∀ y ∈ ([] : List Exchange), y.answer.isAbandoned = false := by simp
        exact .abandoned hnone rfl hab rfl hroot

/-- If the lookup succeeds, none of its queries was given up. -/
theorem GivesUp.answered_of_ok {σ : Type} {x : Inquiry (Except Failure α)} (hx : GivesUp x)
    {db : Database σ} {limit : Option Nat} {s : Session σ} {a : α}
    (h : (s.run db limit x).result = .ok a) :
    ∀ y ∈ s.exchanges db limit x, y.answer.isAbandoned = false := by
  have hend := hx.exchanges_run db limit s
  rw [h] at hend
  generalize s.exchanges db limit x = ys at hend ⊢
  cases hend with
  | answered h => exact h
  | abandoned _ _ _ hr _ => cases hr

end Lookup

end CatalogShell
