import CatalogShell.Session

/-!
# Exchanges of a run

A run is a series of exchanges: queries that were sent, each with the way it ended. The call log
and the token can be read off them.

* `Session.run_bind`: a lookup after another runs in the session that the first one leaves, if
  the first one succeeds.
* `Session.Comes`: where a run stands after some of its queries. `Comes.run_eq`: the rest of the
  run is a run from there.
* `Session.exchanges`: the exchanges of a run, in order. `calls_run`: the log of a run is made
  of its exchanges, each of them a query and perhaps a request to stop it (`Exchange.calls`).
* `eq_nil_of_exchanges_eq`: nothing is sent after the token is cancelled.
-/

namespace CatalogShell

/-- A query that was sent, how it ended, and whether the token was cancelled when it did. -/
structure Exchange where
  query : Query
  answer : Answer
  cancelled : Bool

/-- What an exchange leaves in the log. -/
def Exchange.calls (x : Exchange) : List Call :=
  .query x.query :: if x.answer.isAbandoned then [.stop] else []

/-- The query of a log entry, if it is one. -/
def Call.query? : Call → Option Query
  | .query q => some q
  | .stop => none

theorem Exchange.filterMap_query?_calls (x : Exchange) :
    x.calls.filterMap Call.query? = [x.query] := by
  cases h : x.answer.isAbandoned <;> simp [Exchange.calls, Call.query?, h]

namespace Session

variable {σ α β : Type} (db : Database σ) (limit : Option Nat)

/-- The exchanges of a run: none for a query that the cancelled token keeps from being sent. -/
def exchanges : Inquiry α → Session σ → List Exchange
  | .done _, _ => []
  | .ask q resume, s =>
    let first := s.send db limit q
    let rest := exchanges (resume first.result) first.session
    if s.cancelled then rest else ⟨q, first.result, first.session.cancelled⟩ :: rest

variable {db limit}

/-! ## One query -/

theorem send_of_cancelled {s : Session σ} (q : Query) (h : s.cancelled = true) :
    s.send db limit q = ⟨.error .cancelled, [], s⟩ := by
  simp [send, h]

/-- The log of a query that is sent. -/
theorem calls_send {s : Session σ} (q : Query) (h : s.cancelled = false) :
    (s.send db limit q).calls = Exchange.calls
      ⟨q, (s.send db limit q).result, (s.send db limit q).session.cancelled⟩ := by
  simp only [send, h, Bool.false_eq_true, ↓reduceIte, Exchange.calls]
  split <;> simp_all

/-- A query that was answered was sent, and nothing else. -/
theorem calls_send_of_ok {s : Session σ} {q : Query} {t : ResultSet}
    (h : (s.send db limit q).result = .ok t) : (s.send db limit q).calls = [.query q] := by
  cases hs : s.cancelled with
  | true => simp [send_of_cancelled q hs] at h
  | false => simp [calls_send q hs, h, Exchange.calls, Answer.isAbandoned]

variable (db limit)

theorem queries_send (q : Query) (s : Session σ) :
    (s.send db limit q).calls.filterMap Call.query? <+: [q] := by
  cases hs : s.cancelled with
  | true => simp [send_of_cancelled q hs]
  | false => simp [calls_send q hs, Exchange.filterMap_query?_calls]

theorem run_ask (q : Query) (s : Session σ) :
    s.run db limit (Lookup.ask q).run = s.send db limit q := by
  change (⟨_, (s.send db limit q).calls ++ [], _⟩ : Outcome σ Answer) = _
  rw [List.append_nil]
  rfl

/-! ## Whole runs -/

/-- The log of a run is made of its exchanges. -/
theorem calls_run (x : Inquiry α) (s : Session σ) :
    (s.run db limit x).calls = (exchanges db limit x s).flatMap Exchange.calls := by
  induction x generalizing s with
  | done a => rfl
  | ask q resume ih =>
    cases hc : s.cancelled with
    | true => simp [run, exchanges, hc, ih, send_of_cancelled q hc]
    | false => simp [run, exchanges, hc, ih, calls_send q hc]

/-- The queries in the log of a run are those of its exchanges. -/
theorem queries_run (x : Inquiry α) (s : Session σ) :
    (s.run db limit x).calls.filterMap Call.query? =
      (exchanges db limit x s).map Exchange.query := by
  rw [calls_run]
  induction exchanges db limit x s with
  | nil => rfl
  | cons y ys ih => simp [ih, Exchange.filterMap_query?_calls]

/-- With a cancelled token nothing is sent, and nothing changes. -/
theorem run_of_cancelled (x : Inquiry α) {s : Session σ} (h : s.cancelled = true) :
    exchanges db limit x s = [] ∧ (s.run db limit x).session = s := by
  induction x with
  | done a => exact ⟨rfl, rfl⟩
  | ask q resume ih => simp [run, exchanges, h, send_of_cancelled q h, ih]

theorem calls_of_cancelled (x : Inquiry α) {s : Session σ} (h : s.cancelled = true) :
    (s.run db limit x).calls = [] := by
  rw [calls_run, (run_of_cancelled db limit x h).1]
  rfl

variable {db limit}

/-- An exchange during which the token was cancelled is the last one. -/
theorem eq_nil_of_exchanges_eq (x : Inquiry α) (s : Session σ) {before after : List Exchange}
    {y : Exchange} (h : exchanges db limit x s = before ++ y :: after)
    (hy : y.cancelled = true) : after = [] := by
  induction x generalizing s before with
  | done a => simp [exchanges] at h
  | ask q resume ih =>
    cases hc : s.cancelled with
    | true => simp [(run_of_cancelled db limit (.ask q resume) hc).1] at h
    | false =>
      simp only [exchanges, hc, Bool.false_eq_true, ↓reduceIte] at h
      cases before with
      | nil =>
        simp only [List.nil_append, List.cons.injEq] at h
        obtain ⟨rfl, rfl⟩ := h
        exact (run_of_cancelled db limit _ hy).1
      | cons z before =>
        simp only [List.cons_append, List.cons.injEq] at h
        exact ih _ _ h.2

/-! ## Places in a run -/

/-- A run comes to what is left of its inquiry and to a session, having sent the given calls. -/
inductive Comes (db : Database σ) (limit : Option Nat) :
    Inquiry α → Session σ → List Call → Inquiry α → Session σ → Prop where
  | start (x : Inquiry α) (s : Session σ) : Comes db limit x s [] x s
  | ask {q : Query} {resume : Answer → Inquiry α} {s t : Session σ} {calls : List Call}
      {y : Inquiry α}
      (next : Comes db limit (resume (s.send db limit q).result) (s.send db limit q).session
        calls y t) :
      Comes db limit (.ask q resume) s ((s.send db limit q).calls ++ calls) y t

theorem Comes.run_eq {x y : Inquiry α} {s t : Session σ} {calls : List Call}
    (h : Comes db limit x s calls y t) :
    s.run db limit x = ⟨(t.run db limit y).result, calls ++ (t.run db limit y).calls,
      (t.run db limit y).session⟩ := by
  induction h with
  | start x s => rfl
  | ask next ih => simp only [run, ih, List.append_assoc]

/-- A query leaves itself in the log, and perhaps a request to stop it. -/
theorem calls_send_prefix (q : Query) (s : Session σ) :
    (s.send db limit q).calls <+: [.query q, .stop] := by
  cases hs : s.cancelled with
  | true => simp [send_of_cancelled q hs]
  | false =>
    rw [calls_send q hs, Exchange.calls]
    split
    · exact List.prefix_rfl
    · exact ⟨[.stop], rfl⟩

/-! ## One lookup after the other -/

/-- The outcome of a lookup after another one that gave `first`. -/
def thenRun (db : Database σ) (limit : Option Nat) (f : α → Lookup β)
    (first : Outcome σ (Except Failure α)) : Outcome σ (Except Failure β) :=
  match first.result with
  | .error e => ⟨.error e, first.calls, first.session⟩
  | .ok a =>
    let rest := first.session.run db limit (f a).run
    ⟨rest.result, first.calls ++ rest.calls, rest.session⟩

theorem run_bind (x : Lookup α) (f : α → Lookup β) (s : Session σ) :
    s.run db limit (x >>= f).run = thenRun db limit f (s.run db limit x.run) := by
  change s.run db limit (Inquiry.bind x.run (ExceptT.bindCont f)) = _
  generalize x.run = t
  induction t generalizing s with
  | done r => cases r <;> simp [Inquiry.bind, ExceptT.bindCont, run, thenRun] <;> rfl
  | ask q resume ih =>
    simp only [Inquiry.bind, run, ih, thenRun]
    split <;> simp [List.append_assoc]

theorem run_bind_error {x : Lookup α} (f : α → Lookup β) {s : Session σ} {e : Failure}
    (h : (s.run db limit x.run).result = .error e) :
    s.run db limit (x >>= f).run =
      ⟨.error e, (s.run db limit x.run).calls, (s.run db limit x.run).session⟩ := by
  simp only [run_bind, thenRun, h]

theorem run_bind_ok {x : Lookup α} (f : α → Lookup β) {s : Session σ} {a : α}
    (h : (s.run db limit x.run).result = .ok a) :
    s.run db limit (x >>= f).run =
      let rest := (s.run db limit x.run).session.run db limit (f a).run
      ⟨rest.result, (s.run db limit x.run).calls ++ rest.calls, rest.session⟩ := by
  simp only [run_bind, thenRun, h]

/-- What only changes the result sends nothing. -/
theorem run_bind_pure (x : Lookup α) (g : α → β) (s : Session σ) :
    s.run db limit (x >>= fun a => pure (g a)).run =
      ⟨(s.run db limit x.run).result.map g, (s.run db limit x.run).calls,
        (s.run db limit x.run).session⟩ := by
  cases h : (s.run db limit x.run).result with
  | error e => exact run_bind_error _ h
  | ok a =>
    rw [run_bind_ok _ h]
    change (⟨_, _ ++ [], _⟩ : Outcome σ (Except Failure β)) = _
    rw [List.append_nil]
    rfl

/-- What is read from the answer to a query sends nothing. -/
theorem run_ask_lift (q : Query) (read : ResultSet → Except Failure β) (s : Session σ) :
    s.run db limit (Lookup.ask q >>= fun t => liftM (read t)).run =
      ⟨(s.send db limit q).result >>= read, (s.send db limit q).calls,
        (s.send db limit q).session⟩ := by
  rw [run_bind, run_ask]
  cases h : (s.send db limit q).result with
  | error e =>
    simp only [thenRun, h]
    rfl
  | ok t =>
    simp only [thenRun, h]
    change (⟨_, _ ++ [], _⟩ : Outcome σ (Except Failure β)) = _
    rw [List.append_nil]
    rfl

/-- What is done with the result of an inquiry sends nothing. -/
theorem run_map (f : α → β) (x : Inquiry α) (s : Session σ) :
    s.run db limit (f <$> x) =
      ⟨f (s.run db limit x).result, (s.run db limit x).calls, (s.run db limit x).session⟩ := by
  change s.run db limit (x.bind fun a => .done (f a)) = _
  induction x generalizing s with
  | done a => rfl
  | ask q resume ih => simp only [Inquiry.bind, run, ih]

/-- A failure under another name is one of the same run. -/
theorem run_adapt (f : Failure → Failure) (x : Lookup α) (s : Session σ) :
    s.run db limit (ExceptT.adapt f x).run =
      ⟨(s.run db limit x.run).result.mapError f, (s.run db limit x.run).calls,
        (s.run db limit x.run).session⟩ :=
  run_map (Except.mapError f) x.run s

/-- After a lookup that succeeds come the exchanges of the next one. -/
theorem exchanges_bind {x : Lookup α} {f : α → Lookup β} {s : Session σ} {a : α}
    (h : (s.run db limit x.run).result = .ok a) :
    s.exchanges db limit (x >>= f).run =
      s.exchanges db limit x.run ++
        (s.run db limit x.run).session.exchanges db limit (f a).run := by
  change s.exchanges db limit (Inquiry.bind x.run (ExceptT.bindCont f)) = _
  generalize x.run = t at h ⊢
  induction t generalizing s with
  | done r =>
    obtain rfl : r = .ok a := h
    rfl
  | ask q resume ih =>
    simp only [Inquiry.bind, exchanges, ih _ h, run]
    split <;> rfl

end Session

end CatalogShell
