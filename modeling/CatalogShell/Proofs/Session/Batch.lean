import CatalogShell.Proofs.Session.Turn
import Mathlib.Data.List.Forall2

/-!
# Batches of a session

A batch runs a lookup for each element of a list, up to the first that fails. It can be told from
the turns of these lookups (`Session.turns`), as if none of them were left out: the batch gives
the results of all turns (`run_mapM_ok`), or the failure of the first turn that fails, and then
nothing of a later turn is in its log (`run_mapM_error`).
-/

namespace CatalogShell

namespace Session

variable {σ α β : Type} {db : Database σ} {limit : Option Nat} {f : α → Lookup β}

theorem run_mapM_cons_error {a : α} (as : List α) {s : Session σ} {e : Failure}
    (h : (s.run db limit (f a).run).result = .error e) :
    (s.run db limit ((a :: as).mapM f).run).result = .error e ∧
      (s.run db limit ((a :: as).mapM f).run).calls = (s.run db limit (f a).run).calls := by
  rw [List.mapM_cons, run_bind_error _ h]
  exact ⟨rfl, rfl⟩

theorem run_mapM_cons_ok {a : α} (as : List α) {s : Session σ} {b : β}
    (h : (s.run db limit (f a).run).result = .ok b) :
    let rest := (s.run db limit (f a).run).session.run db limit (as.mapM f).run
    (s.run db limit ((a :: as).mapM f).run).result = rest.result.map (b :: ·) ∧
      (s.run db limit ((a :: as).mapM f).run).calls =
        (s.run db limit (f a).run).calls ++ rest.calls := by
  intro rest
  rw [List.mapM_cons, run_bind_ok _ h, run_bind_pure]
  exact ⟨rfl, rfl⟩

/-- If every turn succeeds, the batch has the results of all of them. -/
theorem run_mapM_ok {as : List α} {s : Session σ} {bs : List β}
    (h : List.Forall₂ (fun t b => t.outcome.result = .ok b)
      (s.turns db limit (as.map fun a => (f a).run)) bs) :
    (s.run db limit (as.mapM f).run).result = .ok bs ∧
      (s.run db limit (as.mapM f).run).calls =
        (s.turns db limit (as.map fun a => (f a).run)).flatMap (·.outcome.calls) := by
  induction as generalizing s bs with
  | nil =>
    cases h
    exact ⟨rfl, rfl⟩
  | cons a as ih =>
    obtain ⟨b, bs, hfirst, hrest, rfl⟩ := List.forall₂_cons_left_iff.1 h
    obtain ⟨hresult, hcalls⟩ := ih hrest
    obtain ⟨hresult', hcalls'⟩ := run_mapM_cons_ok as hfirst
    rw [hresult', hcalls', hresult, hcalls]
    exact ⟨rfl, rfl⟩

/-- The first turn that fails ends the batch, with the same failure. -/
theorem run_mapM_error {as : List α} {s : Session σ}
    {before after : List (Turn σ (Except Failure β))} {t : Turn σ (Except Failure β)} {e : Failure}
    (h : s.turns db limit (as.map fun a => (f a).run) = before ++ t :: after)
    (hbefore : ∀ u ∈ before, ∃ b, u.outcome.result = .ok b) (ht : t.outcome.result = .error e) :
    (s.run db limit (as.mapM f).run).result = .error e ∧
      (s.run db limit (as.mapM f).run).calls =
        before.flatMap (·.outcome.calls) ++ t.outcome.calls := by
  induction as generalizing s before with
  | nil => simp [turns] at h
  | cons a as ih =>
    cases before with
    | nil =>
      simp only [List.map_cons, turns, List.nil_append, List.cons.injEq] at h
      obtain ⟨rfl, -⟩ := h
      exact run_mapM_cons_error as ht
    | cons u before =>
      simp only [List.map_cons, turns, List.cons_append, List.cons.injEq] at h
      obtain ⟨rfl, hrest⟩ := h
      simp only [List.forall_mem_cons] at hbefore
      obtain ⟨⟨b, hb⟩, hbefore⟩ := hbefore
      obtain ⟨hresult, hcalls⟩ := ih hrest hbefore
      obtain ⟨hresult', hcalls'⟩ := run_mapM_cons_ok as hb
      rw [hresult', hcalls', hresult, hcalls]
      exact ⟨rfl, by simp⟩

end Session

end CatalogShell
