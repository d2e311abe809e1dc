import CatalogShell.Proofs.Inquiry.GivesUp
import Mathlib.Data.List.Basic

/-!
# Turns of a session

Inquiries that follow each other share the database, the limit and the token. Each of them is a
turn (`Session.turns`). If all of them give up with their queries, then

* in the log of each turn a request to stop a statement stands last, if there is one, after the
  query that was given up, and the turn fails for that cause (`Turn.StopLaw`);
* nothing is sent once the token is cancelled, neither in that turn nor later
  (`pairwise_turns`);
* it makes no difference whether requests to stop a statement succeed (`turns_stop_result`).
-/

namespace CatalogShell

/-- One run of several in the same session. -/
structure Turn (σ α : Type) where
  exchanges : List Exchange
  outcome : Outcome σ α

namespace Session

variable {σ α : Type}

/-- The turns of inquiries that are run one after the other. -/
def turns (db : Database σ) (limit : Option Nat) : List (Inquiry α) → Session σ → List (Turn σ α)
  | [], _ => []
  | x :: xs, s =>
    let outcome := s.run db limit x
    ⟨s.exchanges db limit x, outcome⟩ :: turns db limit xs outcome.session

end Session

/-- How the log of a turn shows the query that was given up. -/
structure Turn.StopLaw {σ α : Type} (t : Turn σ (Except Failure α)) : Prop where
  /-- The queries in the log are those of the exchanges. -/
  queries : t.outcome.calls.filterMap Call.query? = t.exchanges.map Exchange.query
  /-- There is at most one request to stop a statement. -/
  atMostOne : t.outcome.calls.count .stop ≤ 1
  /-- It is the last entry, right after the query that was given up. -/
  last : ∀ before after, t.outcome.calls = before ++ .stop :: after →
    after = [] ∧ ∃ y, t.exchanges.getLast? = some y ∧ y.answer.isAbandoned = true ∧
      before.getLast? = some (.query y.query)
  /-- It is there exactly when a query that was sent was given up. -/
  mem_iff : Call.stop ∈ t.outcome.calls ↔ ∃ y ∈ t.exchanges, y.answer.isAbandoned = true
  /-- The turn fails for the cause for which the query was given up. -/
  root : ∀ y ∈ t.exchanges, ∀ e, y.answer = .error e → e.isAbandoned = true →
    ∃ e', t.outcome.result = .error e' ∧ e'.root = e
  /-- No query is sent after one during which the token was cancelled. -/
  silent : ∀ before y after, t.exchanges = before ++ y :: after → y.cancelled = true →
    after = [] ∧ t.outcome.session.cancelled = true

namespace Session

variable {σ α : Type} {db : Database σ} {limit : Option Nat}

/-! ## One turn -/

theorem flatMap_calls_of_answered {ys : List Exchange}
    (h : ∀ y ∈ ys, y.answer.isAbandoned = false) :
    ys.flatMap Exchange.calls = ys.map fun y => .query y.query := by
  induction ys with
  | nil => rfl
  | cons y ys ih =>
    simp only [List.forall_mem_cons] at h
    simp [Exchange.calls, h.1, ih h.2]

theorem stop_notMem_map_query (ys : List Exchange) :
    Call.stop ∉ ys.map fun y => Call.query y.query := by
  simp

/-- The token stays cancelled after an exchange during which it was cancelled. -/
theorem cancelled_of_mem_exchanges (x : Inquiry α) (s : Session σ) {y : Exchange}
    (hy : y ∈ s.exchanges db limit x) (hc : y.cancelled = true) :
    (s.run db limit x).session.cancelled = true := by
  induction x generalizing s with
  | done a => simp [exchanges] at hy
  | ask q resume ih =>
    cases hs : s.cancelled with
    | true => simp [(run_of_cancelled db limit (.ask q resume) hs).1] at hy
    | false =>
      simp only [exchanges, hs, Bool.false_eq_true, ↓reduceIte, List.mem_cons] at hy
      obtain rfl | hy := hy
      · have hkeep := (run_of_cancelled db limit
          (resume (s.send db limit q).result) hc).2
        simp only [run, hkeep]
        exact hc
      · exact ih _ _ hy

theorem stopLaw {x : Inquiry (Except Failure α)} (hx : Lookup.GivesUp x) (s : Session σ) :
    Turn.StopLaw ⟨s.exchanges db limit x, s.run db limit x⟩ := by
  have hlog := calls_run db limit x s
  have hsilent : ∀ before y after, s.exchanges db limit x = before ++ y :: after →
      y.cancelled = true → after = [] ∧ (s.run db limit x).session.cancelled = true :=
    fun _ _ _ hex hc =>
      ⟨eq_nil_of_exchanges_eq x s hex hc, cancelled_of_mem_exchanges x s (by simp [hex]) hc⟩
  have hqueries := queries_run db limit x s
  have hend := hx.exchanges_run db limit s
  generalize s.exchanges db limit x = ys at *
  generalize s.run db limit x = out at *
  cases hend with
  | answered h =>
    rw [flatMap_calls_of_answered h] at hlog
    have hnone : Call.stop ∉ out.calls := hlog ▸ stop_notMem_map_query ys
    refine ⟨hqueries, ?_, ?_, ?_, ?_, hsilent⟩
    · rw [List.count_eq_zero_of_not_mem hnone]
      exact Nat.zero_le 1
    · intro before after hcalls
      exact absurd (hcalls ▸ by simp) hnone
    · simp only [hnone, false_iff, not_exists, not_and]
      exact fun y hy => by simp [h y hy]
    · intro y hy e he hab
      have := h y hy
      simp [he, Answer.isAbandoned, hab] at this
  | @abandoned ys y e e' h hy he hr hroot =>
    have habandoned : y.answer.isAbandoned = true := by simp [hy, Answer.isAbandoned, he]
    have hcalls :
        out.calls = (ys.map (fun y => .query y.query) ++ [.query y.query]) ++ [.stop] := by
      rw [hlog, List.flatMap_append, flatMap_calls_of_answered h]
      simp [Exchange.calls, habandoned]
    have hnone : Call.stop ∉ ys.map (fun y => Call.query y.query) ++ [.query y.query] := by simp
    refine ⟨hqueries, ?_, ?_, ?_, ?_, hsilent⟩
    · rw [hcalls, List.count_append, List.count_eq_zero_of_not_mem hnone]
      exact Nat.le_refl 1
    · intro before after hsplit
      rw [hcalls] at hsplit
      obtain ⟨rfl, -, rfl⟩ := (List.append_cons_inj_of_notMem hnone (by simp)).1 hsplit
      exact ⟨rfl, y, by simp, habandoned, by simp⟩
    · exact iff_of_true (by simp [hcalls]) ⟨y, by simp, habandoned⟩
    · intro z hz f hf hab
      rw [List.mem_append, List.mem_singleton] at hz
      obtain hz | rfl := hz
      · have := h z hz
        simp [hf, Answer.isAbandoned, hab] at this
      · obtain rfl : e = f := by simpa [hy] using hf
        exact ⟨e', hr, hroot⟩

/-- The log of a lookup that gives up with its queries and succeeds is its queries. -/
theorem calls_of_ok {x : Inquiry (Except Failure α)} (hx : Lookup.GivesUp x) {s : Session σ} {a : α}
    (h : (s.run db limit x).result = .ok a) :
    (s.run db limit x).calls =
      ((s.run db limit x).calls.filterMap Call.query?).map .query := by
  rw [queries_run, calls_run, flatMap_calls_of_answered (hx.answered_of_ok h), List.map_map]
  rfl

/-! ## Several turns -/

theorem stopLaw_of_mem_turns {xs : List (Inquiry (Except Failure α))}
    (hxs : ∀ x ∈ xs, Lookup.GivesUp x) (s : Session σ) :
    ∀ t ∈ s.turns db limit xs, t.StopLaw := by
  induction xs generalizing s with
  | nil => simp [turns]
  | cons x xs ih =>
    simp only [List.forall_mem_cons] at hxs
    simp only [turns, List.forall_mem_cons]
    exact ⟨stopLaw hxs.1 s, ih hxs.2 _⟩

theorem calls_of_mem_turns {xs : List (Inquiry α)} {s : Session σ} (h : s.cancelled = true) :
    ∀ t ∈ s.turns db limit xs, t.outcome.calls = [] := by
  induction xs with
  | nil => simp [turns]
  | cons x xs ih =>
    simp only [turns, List.forall_mem_cons, (run_of_cancelled db limit x h).2]
    exact ⟨calls_of_cancelled db limit x h, ih⟩

theorem pairwise_turns (xs : List (Inquiry α)) (s : Session σ) :
    (s.turns db limit xs).Pairwise
      fun t u => t.outcome.session.cancelled = true → u.outcome.calls = [] := by
  induction xs generalizing s with
  | nil => exact .nil
  | cons x xs ih => exact .cons (fun u hu hc => calls_of_mem_turns hc u hu) (ih _)

/-! ## Requests that fail -/

theorem run_stop_result (db : Database σ) (limit : Option Nat) (f : σ → Except Failure Unit)
    (x : Inquiry α) (s : Session σ) :
    s.run { db with stop := fun d => (f d, (db.stop d).2) } limit x = s.run db limit x ∧
      s.exchanges { db with stop := fun d => (f d, (db.stop d).2) } limit x =
        s.exchanges db limit x := by
  induction x generalizing s with
  | done a => exact ⟨rfl, rfl⟩
  | ask q resume ih =>
    have hsend : s.send { db with stop := fun d => (f d, (db.stop d).2) } limit q =
        s.send db limit q := rfl
    simp only [run, exchanges, hsend, ih, and_self]

theorem turns_stop_result (f : σ → Except Failure Unit) (xs : List (Inquiry α)) (s : Session σ) :
    s.turns { db with stop := fun d => (f d, (db.stop d).2) } limit xs = s.turns db limit xs := by
  induction xs generalizing s with
  | nil => rfl
  | cons x xs ih =>
    obtain ⟨hrun, hex⟩ := run_stop_result db limit f x s
    simp only [turns, hrun, hex, ih]

end Session

end CatalogShell
