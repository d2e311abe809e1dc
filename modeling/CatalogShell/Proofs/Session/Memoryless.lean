import CatalogShell.Proofs.Inquiry.MayReturn
import CatalogShell.Script

/-!
# Databases without memory

`Database.AnswersBy db d f`: whatever is sent to the database after the state `d`, its answer to a
query is `f` of the query's label and parameters. When it answers, and whether the token is
cancelled meanwhile, may still differ from time to time.

* `Lookup.GivesUp.mayReturn_of_answersBy`: a run that succeeds has its result from `f` alone. So
  two runs of one lookup that succeed agree, in whatever sessions.
* `Script.answersBy_ofRows`: a scripted database whose entries can be used without limit is one.
-/

namespace CatalogShell

namespace Database

variable {σ : Type}

/-- The states that a database can come to. -/
inductive Reaches (db : Database σ) (d : σ) : σ → Prop where
  | refl : Reaches db d d
  | reply {d' : σ} (h : Reaches db d d') (q : Query) : Reaches db d (db.reply q d').2
  | stop {d' : σ} (h : Reaches db d d') : Reaches db d (db.stop d').2

/-- From a state on, the answer to a query depends on its label and its parameters alone. -/
def AnswersBy (db : Database σ) (d : σ) (f : String → List Value → Answer) : Prop :=
  ∀ d', db.Reaches d d' → ∀ q, (db.reply q d').1.answer = f q.label q.params

theorem Reaches.trans {db : Database σ} {d d' d'' : σ} (h : db.Reaches d d')
    (h' : db.Reaches d' d'') : db.Reaches d d'' := by
  induction h' with
  | refl => exact h
  | reply _ q ih => exact ih.reply q
  | stop _ ih => exact ih.stop

end Database

/-- A query that was sent ends with the database's answer or is given up. -/
theorem Reply.settle_eq_or_isAbandoned (r : Reply) (limit : Option Nat) :
    r.settle limit = r.answer ∨ (r.settle limit).isAbandoned = true := by
  unfold settle
  repeat' split
  all_goals first | exact .inl rfl | exact .inr rfl

namespace Session

variable {σ α : Type} {db : Database σ} {limit : Option Nat}

/-- A query that was sent has its answer from the database. -/
theorem result_send {s : Session σ} (q : Query) (h : s.cancelled = false) :
    (s.send db limit q).result = (db.reply q s.database).1.settle limit := by
  simp only [send, h, Bool.false_eq_true, ↓reduceIte]
  split <;> rfl

theorem reaches_send (s : Session σ) (q : Query) :
    db.Reaches s.database (s.send db limit q).session.database := by
  unfold send
  split
  · exact .refl
  · dsimp only
    split
    · exact (Database.Reaches.refl.reply q).stop
    · exact Database.Reaches.refl.reply q

/-- The answers of a run come from states that the database can come to. -/
theorem exists_reply_of_mem_exchanges (x : Inquiry α) (s : Session σ) {y : Exchange}
    (hy : y ∈ s.exchanges db limit x) :
    ∃ d, db.Reaches s.database d ∧ y.answer = (db.reply y.query d).1.settle limit := by
  induction x generalizing s with
  | done a => simp [exchanges] at hy
  | ask q resume ih =>
    cases hs : s.cancelled with
    | true => simp [(run_of_cancelled db limit (.ask q resume) hs).1] at hy
    | false =>
      simp only [exchanges, hs, Bool.false_eq_true, ↓reduceIte, List.mem_cons] at hy
      obtain rfl | hy := hy
      · exact ⟨s.database, .refl, result_send q hs⟩
      · obtain ⟨d, hd, hanswer⟩ := ih _ _ hy
        exact ⟨d, (reaches_send s q).trans hd, hanswer⟩

end Session

/-- Success on a database without memory. -/
theorem Lookup.GivesUp.mayReturn_of_answersBy {σ α : Type} {x : Inquiry (Except Failure α)}
    (hx : GivesUp x) {db : Database σ} {limit : Option Nat} {s : Session σ}
    {f : String → List Value → Answer} (hdb : db.AnswersBy s.database f) {a : α}
    (h : (s.run db limit x).result = .ok a) :
    Inquiry.MayReturn (fun q answer => answer = f q.label q.params) x (.ok a) := by
  refine (hx.mayReturn_run db limit h).mono ?_
  rintro q answer ⟨y, hy, rfl, rfl⟩
  obtain ⟨d, hd, hanswer⟩ := Session.exists_reply_of_mem_exchanges x s hy
  have hsettled := hx.answered_of_ok h y hy
  rw [hanswer] at hsettled ⊢
  obtain hs | hs := (db.reply y.query d).1.settle_eq_or_isAbandoned limit
  · rw [hs, hdb d hd]
  · simp [hs] at hsettled

/-! ## Scripts -/

namespace Script

/-- A script that answers queries by label with the given rows, however often. -/
def ofRows (answers : List (String × List Row)) : Script where
  entries := answers.map fun (label, rows) => { label, reply := { answer := .ok { rows } } }

theorem take_snd_of_unlimited {entries : List ScriptEntry} (h : ∀ e ∈ entries, e.uses = none)
    (q : Query) : (take q entries).2 = entries := by
  induction entries with
  | nil => rfl
  | cons e es ih =>
    simp only [List.forall_mem_cons] at h
    unfold take
    split
    · obtain ⟨label, oid, uses, reply⟩ := e
      obtain rfl : uses = none := h.1
      rfl
    · simp [ih h.2]

/-- The answer to a query that finds no entry is empty. -/
def answerOf (answers : List (String × List Row)) (label : String) : Answer :=
  .ok { rows := ((answers.find? fun a => a.1 == label).map Prod.snd).getD [] }

theorem answer_take_ofRows (answers : List (String × List Row)) (q : Query) :
    ((take q (ofRows answers).entries).1.getD { answer := .ok {} }).answer =
      answerOf answers q.label := by
  induction answers with
  | nil => rfl
  | cons a as ih =>
    obtain ⟨label, rows⟩ := a
    simp only [ofRows, List.map_cons, take, answerOf, List.find?_cons]
    cases hl : label == q.label with
    | true => simp [ScriptEntry.fits, hl]
    | false => simpa [ScriptEntry.fits, hl, ofRows, answerOf] using ih

theorem answersBy_ofRows (answers : List (String × List Row)) :
    database.AnswersBy (ofRows answers) fun label _ => answerOf answers label := by
  have hunlimited : ∀ e ∈ (ofRows answers).entries, e.uses = none := by
    simp only [ofRows, List.mem_map]
    rintro e ⟨a, -, rfl⟩
    rfl
  have hkeeps (d : Script) (h : database.Reaches (ofRows answers) d) : d = ofRows answers := by
    induction h with
    | refl => rfl
    | reply _ q ih =>
      subst ih
      simp only [database, take_snd_of_unlimited hunlimited]
    | stop _ ih => exact ih
  intro d hd q
  rw [hkeeps d hd]
  exact answer_take_ofRows answers q

end Script

end CatalogShell
