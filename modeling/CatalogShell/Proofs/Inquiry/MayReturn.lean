import CatalogShell.Proofs.Inquiry.GivesUp

/-!
# Results that an inquiry may have

`Inquiry.MayReturn R x a`: the inquiry `x` may end with `a` if each of its queries gets one of the
answers that the relation `R` allows. With `R` the exchanges of a run this is the run itself; with
`R` a function it is what a database without memory gives; with no condition it is whatever any
database can bring about.

* `Lookup.Gives`: the lookup may succeed with a result. For every way to build lookups an equivalence
  says when it does, so that the result of a long lookup is taken apart by following its text.
* `Inquiry.MayReturn.unique`: if no query has two answers, there is only one result.
* `Lookup.GivesUp.mayReturn_run`: a run that succeeds has its result from the answers that it got.
-/

namespace CatalogShell

namespace Inquiry

variable {α β : Type} {R S : Query → Answer → Prop}

/-- A result that an inquiry may have if its queries get answers that `R` allows. -/
inductive MayReturn (R : Query → Answer → Prop) : Inquiry α → α → Prop where
  | done (a : α) : MayReturn R (.done a) a
  | ask {q : Query} {resume : Answer → Inquiry α} {answer : Answer} {a : α} (allowed : R q answer)
      (next : MayReturn R (resume answer) a) : MayReturn R (.ask q resume) a

theorem mayReturn_done {a b : α} : MayReturn R (.done a) b ↔ b = a := by
  constructor
  · intro h
    cases h
    rfl
  · rintro rfl
    exact .done b

theorem mayReturn_ask {q : Query} {resume : Answer → Inquiry α} {b : α} :
    MayReturn R (.ask q resume) b ↔ ∃ answer, R q answer ∧ MayReturn R (resume answer) b := by
  constructor
  · intro h
    cases h with
    | ask allowed next => exact ⟨_, allowed, next⟩
  · rintro ⟨answer, allowed, next⟩
    exact .ask allowed next

theorem mayReturn_bind {x : Inquiry α} {f : α → Inquiry β} {b : β} :
    MayReturn R (x.bind f) b ↔ ∃ a, MayReturn R x a ∧ MayReturn R (f a) b := by
  induction x with
  | done a => simp [bind, mayReturn_done]
  | ask q resume ih =>
    simp only [bind, mayReturn_ask, ih]
    constructor
    · rintro ⟨answer, h, a, ha, hb⟩
      exact ⟨a, ⟨answer, h, ha⟩, hb⟩
    · rintro ⟨a, ⟨answer, h, ha⟩, hb⟩
      exact ⟨answer, h, a, ha, hb⟩

namespace MayReturn

theorem mono (hRS : ∀ q answer, R q answer → S q answer) {x : Inquiry α} {a : α}
    (h : MayReturn R x a) : MayReturn S x a := by
  induction h with
  | done a => exact .done a
  | ask allowed _ ih => exact .ask (hRS _ _ allowed) ih

/-- If no query has two answers, the inquiry has only one result. -/
theorem unique (hR : ∀ q answer answer', R q answer → R q answer' → answer = answer')
    {x : Inquiry α} {a b : α} (ha : MayReturn R x a) (hb : MayReturn R x b) : a = b := by
  induction ha with
  | done a => exact (mayReturn_done.1 hb).symm
  | ask allowed _ ih =>
    obtain ⟨answer, allowed', next⟩ := mayReturn_ask.1 hb
    obtain rfl := hR _ _ _ allowed allowed'
    exact ih next

end MayReturn

end Inquiry

namespace Lookup

open Inquiry (MayReturn mayReturn_done mayReturn_ask mayReturn_bind)

variable {α β : Type} (R : Query → Answer → Prop)

/-- The lookup may succeed with the result. -/
def Gives (x : Lookup α) (a : α) : Prop := MayReturn R x.run (.ok a)

variable {R}

/-! ## Success -/

@[simp] theorem gives_pure {a b : α} : Gives R (pure a) b ↔ b = a :=
  mayReturn_done.trans (by simp)

@[simp] theorem gives_lift {r : Except Failure α} {b : α} :
    Gives R (liftM r) b ↔ r = .ok b :=
  mayReturn_done.trans eq_comm

@[simp] theorem not_gives_throw {e : Failure} {b : α} : ¬ Gives R (throw e : Lookup α) b := by
  intro h
  cases mayReturn_done.1 h

@[simp] theorem gives_ask {q : Query} {t : ResultSet} : Gives R (ask q) t ↔ R q (.ok t) :=
  mayReturn_ask.trans ⟨fun ⟨_, h, hd⟩ => mayReturn_done.1 hd ▸ h, fun h => ⟨_, h, .done _⟩⟩

theorem gives_bind {x : Lookup α} {f : α → Lookup β} {b : β} :
    Gives R (x >>= f) b ↔ ∃ a, Gives R x a ∧ Gives R (f a) b := by
  refine mayReturn_bind.trans ⟨?_, ?_⟩
  · rintro ⟨r, hx, hf⟩
    cases r with
    | error e => cases mayReturn_done.1 hf
    | ok a => exact ⟨a, hx, hf⟩
  · rintro ⟨a, hx, hf⟩
    exact ⟨.ok a, hx, hf⟩

@[simp] theorem gives_askFirst? {q : Query} {row : Option Row} :
    Gives R (askFirst? q) row ↔ ∃ t, R q (.ok t) ∧ row = t.first? := by
  simp only [askFirst?, gives_bind, gives_ask, gives_pure]

@[simp] theorem gives_askFirst {q : Query} {row : Row} :
    Gives R (askFirst q) row ↔ ∃ t, R q (.ok t) ∧ t.first? = some row := by
  simp only [askFirst, gives_bind, gives_askFirst?]
  constructor
  · rintro ⟨r, ⟨t, ht, rfl⟩, h⟩
    cases hr : t.first? with
    | none => simp [hr] at h
    | some row' =>
      obtain rfl : row = row' := by simpa [hr] using h
      exact ⟨t, ht, hr⟩
  · rintro ⟨t, ht, hr⟩
    exact ⟨some row, ⟨t, ht, hr.symm⟩, by simp⟩

/-- If no query has two answers, the lookup succeeds in one way at most. -/
theorem Gives.unique (hR : ∀ q answer answer', R q answer → R q answer' → answer = answer')
    {x : Lookup α} {a b : α} (ha : Gives R x a) (hb : Gives R x b) : a = b :=
  Except.ok.inj (MayReturn.unique hR ha hb)

end Lookup

/-! ## Runs -/

/-- One of the exchanges has the query and the answer. -/
def Answered (ys : List Exchange) (q : Query) (answer : Answer) : Prop :=
  ∃ y ∈ ys, y.query = q ∧ y.answer = answer

open Inquiry (MayReturn)

variable {σ α : Type} (db : Database σ) (limit : Option Nat)

theorem Answered.cons {ys : List Exchange} {q : Query} {answer : Answer} (h : Answered ys q answer)
    (y : Exchange) : Answered (y :: ys) q answer :=
  h.imp fun _ hz => ⟨List.mem_cons_of_mem _ hz.1, hz.2⟩

/-- The answer to the first query with the label. -/
def answerTo? (label : String) (ys : List Exchange) : Option Answer :=
  (ys.find? fun y => y.query.label = label).map Exchange.answer

/-- If no two queries have the same label, the label tells the answer. -/
theorem Answered.answerTo?_eq {ys : List Exchange} {q : Query} {answer : Answer}
    (h : Answered ys q answer) (hnodup : (ys.map (·.query.label)).Nodup) :
    answerTo? q.label ys = some answer := by
  induction ys with
  | nil => simp [Answered] at h
  | cons y ys ih =>
    simp only [List.map_cons, List.nodup_cons, List.mem_map, not_exists, not_and] at hnodup
    obtain ⟨z, hz, rfl, rfl⟩ := h
    obtain rfl | hz := List.mem_cons.1 hz
    · simp [answerTo?]
    · have hne : y.query.label ≠ z.query.label := fun he => hnodup.1 z hz he.symm
      simpa [answerTo?, hne] using ih ⟨z, hz, rfl, rfl⟩ hnodup.2

/-- A lookup that gives up with its queries and succeeds has its result from the answers of its
exchanges alone. -/
theorem Lookup.GivesUp.mayReturn_run {x : Inquiry (Except Failure α)} (hx : GivesUp x)
    {s : Session σ} {a : α} (h : (s.run db limit x).result = .ok a) :
    MayReturn (Answered (s.exchanges db limit x)) x (.ok a) := by
  induction hx generalizing s with
  | done r =>
    obtain rfl : r = .ok a := h
    exact .done _
  | @ask q resume stops _ ih =>
    cases hc : s.cancelled with
    | true =>
      obtain ⟨e, hresume, -⟩ := stops .cancelled rfl
      simp [Session.run, Session.send_of_cancelled q hc, hresume] at h
    | false =>
      simp only [Session.exchanges, hc, Bool.false_eq_true, ↓reduceIte]
      refine .ask ⟨_, List.mem_cons_self, rfl, rfl⟩ ((ih _ h).mono ?_)
      exact fun _ _ h => h.cons _

end CatalogShell
