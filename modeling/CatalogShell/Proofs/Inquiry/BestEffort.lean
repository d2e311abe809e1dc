import CatalogShell.Proofs.Session.Exchange

/-!
# Lookups that do their best for one query

A lookup does its best for the queries of a label (`Lookup.BestEffort`) if it goes on after an
answer of theirs from which no text can be had, as it does after one without rows. At the error
of any other query it stops with just that error, and so it does when a query of the label itself
is given up. Most ways to build lookups keep this property.

* `BestEffort.run_of_error`: an error that is not tolerated is the result of the run, and nothing
  is sent after its query.
* `BestEffort.run_eq`: two databases that only differ in queries of the label, where the one has
  no text and the other no rows (`Database.AgreeBut`), cannot be told apart by the lookup.
-/

namespace CatalogShell

/-- No text can be had from the first column of the first row, although the query was not given
up: the query failed, or there is no value, or it is neither text nor NULL. -/
inductive Answer.Lost : Answer → Prop where
  | failed {e : Failure} (h : e.isAbandoned = false) : Lost (.error e)
  | missing {t : ResultSet} {row : Row} (first : t.first? = some row)
      (h : row.get? 0 = none) : Lost (.ok t)
  | mistyped {t : ResultSet} {row : Row} {v : Value} (first : t.first? = some row)
      (h : row.get? 0 = some v) (notNull : v ≠ .null) (notText : ∀ s, v ≠ .text s) : Lost (.ok t)

/-- A lost answer does not come from a query that was given up. -/
theorem Answer.Lost.isAbandoned {answer : Answer} (h : answer.Lost) :
    answer.isAbandoned = false := by
  cases h with
  | failed h => exact h
  | missing => rfl
  | mistyped => rfl

namespace Lookup

variable {α β : Type} {label : String}

/-- The lookup tolerates an answer without text to the queries of the label, and no other
failure of a query. -/
inductive BestEffort (label : String) : Inquiry (Except Failure α) → Prop where
  | done (r : Except Failure α) : BestEffort label (.done r)
  | ask {q : Query} {resume : Answer → Inquiry (Except Failure α)}
      (strict : ∀ e, q.label ≠ label ∨ e.isAbandoned = true →
        resume (.error e) = .done (.error e))
      (lenient : q.label = label → ∀ (answer : Answer) (t : ResultSet), answer.Lost → t.rows = [] →
        resume answer = resume (.ok t))
      (next : ∀ answer, BestEffort label (resume answer)) : BestEffort label (.ask q resume)

namespace BestEffort

/-! ## Ways to build lookups -/

theorem pure (a : α) : BestEffort label (Pure.pure a : Lookup α).run := .done _

theorem throw (e : Failure) : BestEffort label (MonadExcept.throw e : Lookup α).run := .done _

theorem lift (r : Except Failure α) : BestEffort label (liftM r : Lookup α).run := .done _

theorem lookupAsk {q : Query} (hq : q.label ≠ label) : BestEffort label (Lookup.ask q).run := by
  refine .ask (fun e _ => rfl) (fun h => absurd h hq) fun answer => ?_
  exact .done answer

theorem bind {x : Lookup α} {f : α → Lookup β} (hx : BestEffort label x.run)
    (hf : ∀ a, BestEffort label (f a).run) : BestEffort label (x >>= f).run := by
  change BestEffort label (Inquiry.bind x.run (ExceptT.bindCont f))
  generalize x.run = y at hx ⊢
  induction hx with
  | done r =>
    cases r with
    | ok a => exact hf a
    | error e => exact .done _
  | ask strict lenient _ ih =>
    refine .ask ?_ ?_ ih
    · intro e he
      rw [strict e he]
      rfl
    · intro hq answer t hlost ht
      rw [lenient hq answer t hlost ht]

theorem askFirst? {q : Query} (hq : q.label ≠ label) :
    BestEffort label (Lookup.askFirst? q).run :=
  bind (lookupAsk hq) fun _ => pure _

theorem askFirst {q : Query} (hq : q.label ≠ label) : BestEffort label (Lookup.askFirst q).run := by
  refine bind (askFirst? hq) fun row => ?_
  cases row with
  | some row => exact pure row
  | none => exact throw _

/-! ## Runs -/

variable {σ : Type} {db : Database σ} {limit : Option Nat}

theorem of_comes {x y : Inquiry (Except Failure α)} {s t : Session σ} {calls : List Call}
    (hx : BestEffort label x) (h : Session.Comes db limit x s calls y t) : BestEffort label y := by
  induction h with
  | start x s => exact hx
  | ask _ ih =>
    cases hx with
    | ask _ _ next => exact ih (next _)

/-- Where the run comes to a query that ends with an error that is not tolerated, it stops. -/
theorem run_of_error {x : Inquiry (Except Failure α)} {s t : Session σ} {calls : List Call}
    {q : Query} {resume : Answer → Inquiry (Except Failure α)} {e : Failure}
    (hx : BestEffort label x) (h : Session.Comes db limit x s calls (.ask q resume) t)
    (he : (t.send db limit q).result = .error e) (hq : q.label ≠ label ∨ e.isAbandoned = true) :
    s.run db limit x =
      ⟨.error e, calls ++ (t.send db limit q).calls, (t.send db limit q).session⟩ := by
  rw [h.run_eq]
  cases hx.of_comes h with
  | ask strict _ _ =>
    simp only [Session.run, he, strict e hq, List.append_nil]

end BestEffort

end Lookup

/-- A query that waits forever is given up. -/
theorem Reply.isAbandoned_of_waitsForever {r : Reply} {limit : Option Nat}
    (h : r.waitsForever limit = true) : (r.settle limit).isAbandoned = true := by
  simp only [waitsForever, Bool.and_eq_true, beq_iff_eq, Option.isNone_iff_eq_none] at h
  simp only [settle, h.1, h.2]
  split <;> rfl

/-! ## Databases that differ in one query -/

variable {σ σ' α : Type} {db : Database σ} {db' : Database σ'} {label : String}
  {limit : Option Nat} {R : σ → σ' → Prop}

/-- In states that correspond to each other, the databases do the same with a query, unless it has
the label. For such a query the first database has no text and the second one no rows. -/
structure Database.AgreeBut (label : String) (limit : Option Nat) (db : Database σ)
    (db' : Database σ') (R : σ → σ' → Prop) : Prop where
  reply_eq : ∀ {d d'}, R d d' → ∀ q, q.label ≠ label → (db.reply q d).1 = (db'.reply q d').1
  lost : ∀ {d d'}, R d d' → ∀ q, q.label = label → ((db.reply q d).1.settle limit).Lost
  empty : ∀ {d d'}, R d d' → ∀ q, q.label = label →
    ∃ t, (db'.reply q d').1.settle limit = .ok t ∧ t.rows = []
  cancelsToken : ∀ {d d'}, R d d' → ∀ q, q.label = label →
    (db.reply q d).1.cancelsToken = (db'.reply q d').1.cancelsToken
  afterReply : ∀ {d d'}, R d d' → ∀ q, R (db.reply q d).2 (db'.reply q d').2
  afterStop : ∀ {d d'}, R d d' → R (db.stop d).2 (db'.stop d').2

namespace Session

/-- The databases are in states that correspond, and the token is the same. -/
def Matches (R : σ → σ' → Prop) (s : Session σ) (s' : Session σ') : Prop :=
  R s.database s'.database ∧ s.cancelled = s'.cancelled

/-- A query that is not given up is the only thing sent. -/
theorem send_of_settled {s : Session σ} {q : Query} (hs : s.cancelled = false)
    (h : ((db.reply q s.database).1.settle limit).isAbandoned = false) :
    s.send db limit q = ⟨(db.reply q s.database).1.settle limit, [.query q],
      ⟨(db.reply q s.database).2, (db.reply q s.database).1.cancelsToken⟩⟩ := by
  have hwaits : (db.reply q s.database).1.waitsForever limit = false := by
    cases hwaits : (db.reply q s.database).1.waitsForever limit with
    | false => rfl
    | true =>
      rw [Reply.isAbandoned_of_waitsForever hwaits] at h
      cases h
  simp only [send, hs, h, hwaits, Bool.or_false, Bool.false_eq_true, ↓reduceIte]

/-- One query in sessions that match: they match after it, and it leaves the same in the log. Its
result is the same, but for a query of the label. -/
theorem Matches.send {s : Session σ} {s' : Session σ'} (hs : s.Matches R s')
    (hdb : db.AgreeBut label limit db' R) (q : Query) :
    (s.send db limit q).session.Matches R (s'.send db' limit q).session ∧
      (s.send db limit q).calls = (s'.send db' limit q).calls ∧
      ((s.send db limit q).result = (s'.send db' limit q).result ∨
        q.label = label ∧ (s.send db limit q).result.Lost ∧
          ∃ t, (s'.send db' limit q).result = .ok t ∧ t.rows = []) := by
  obtain ⟨hstate, htoken⟩ := hs
  have hafter := hdb.afterReply hstate q
  cases hc : s.cancelled with
  | true =>
    rw [send_of_cancelled q hc, send_of_cancelled q (htoken ▸ hc)]
    exact ⟨⟨hstate, htoken⟩, rfl, .inl rfl⟩
  | false =>
    have hc' : s'.cancelled = false := htoken ▸ hc
    by_cases hq : q.label = label
    · have hlost := hdb.lost hstate q hq
      obtain ⟨t, ht, hrows⟩ := hdb.empty hstate q hq
      have hempty : ((db'.reply q s'.database).1.settle limit).isAbandoned = false := by
        rw [ht]
        rfl
      rw [send_of_settled hc hlost.isAbandoned, send_of_settled hc' hempty]
      exact ⟨⟨hafter, hdb.cancelsToken hstate q hq⟩, rfl, .inr ⟨hq, hlost, t, ht, hrows⟩⟩
    · have hreply := hdb.reply_eq hstate q hq
      simp only [Session.send, hc, hc', hreply, Bool.false_eq_true, ↓reduceIte]
      split
      · exact ⟨⟨hdb.afterStop hafter, rfl⟩, rfl, .inl rfl⟩
      · exact ⟨⟨hafter, rfl⟩, rfl, .inl rfl⟩

end Session

/-- A lookup that does its best for the label cannot tell the databases apart. -/
theorem Lookup.BestEffort.run_eq {x : Inquiry (Except Failure α)} (hx : BestEffort label x)
    (hdb : db.AgreeBut label limit db' R) {s : Session σ} {s' : Session σ'}
    (hs : s.Matches R s') :
    (s.run db limit x).result = (s'.run db' limit x).result ∧
      (s.run db limit x).calls = (s'.run db' limit x).calls := by
  induction hx generalizing s s' with
  | done r => exact ⟨rfl, rfl⟩
  | @ask q resume strict lenient _ ih =>
    obtain ⟨hnext, hcalls, hresult⟩ := hs.send hdb q
    have hresume : resume (s.send db limit q).result = resume (s'.send db' limit q).result := by
      rcases hresult with heq | ⟨hq, hlost, t, ht, hrows⟩
      · rw [heq]
      · rw [ht]
        exact lenient hq _ t hlost hrows
    obtain ⟨hrest, hrestCalls⟩ := ih (s.send db limit q).result hnext
    simp only [Session.run]
    rw [← hresume, hcalls, hrest, hrestCalls]
    exact ⟨rfl, rfl⟩

end CatalogShell
