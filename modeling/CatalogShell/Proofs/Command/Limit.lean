import CatalogShell.Proofs.Command.Abandon
import CatalogShell.Proofs.Session.Memoryless

/-!
# Limits on the time of a query

A limit can turn an answer into a failure, and can do nothing else. A query goes the same way under
a limit and under a longer one or none, or it takes longer than the limit allows
(`Session.send_eq_or_timedOut`). A lookup that gives up with its queries fails at the first that
does, so that two runs under different limits are the same run, or the one under the shorter limit
fails because it was too short (`Lookup.GivesUp.run_eq_or_timedOut`).

`Registry.longer_limit_keeps_success` draws the conclusion for the dispatch of a line. There the
section that may be missing, the definition of a view, is not taken for missing where it only took
too long: a run that succeeds had an answer to each of its queries.
-/

namespace CatalogShell

/-- Under a limit a query ends as it does under a longer one, and leaves the token alike, or it takes
longer than the limit. -/
theorem Reply.settle_eq_or_timedOut (r : Reply) {n : Nat} {longer : Option Nat}
    (h : ∀ m ∈ longer, n ≤ m) :
    (r.settle longer = r.settle (some n) ∧
      (r.cancelsToken || r.waitsForever longer) = (r.cancelsToken || r.waitsForever (some n))) ∨
    r.settle (some n) = .error (.timedOut n) := by
  cases htoken : r.cancelsToken with
  | true =>
    -- the token goes before any limit
    refine .inl ⟨?_, by simp⟩
    unfold settle
    cases r.arrival <;> simp [htoken]
  | false =>
    cases harrival : r.arrival with
    | atOnce => exact .inl ⟨by simp [settle, harrival], by simp [waitsForever, harrival]⟩
    | never => exact .inr (by simp [settle, harrival, htoken])
    | after millis =>
      by_cases hmillis : millis ≤ n
      · refine .inl ⟨?_, by simp [waitsForever, harrival]⟩
        cases longer with
        | none => simp [settle, harrival, htoken, hmillis]
        | some m =>
          have hm : millis ≤ m := Nat.le_trans hmillis (h m rfl)
          simp [settle, harrival, htoken, hmillis, hm]
      · exact .inr (by simp [settle, harrival, htoken, hmillis])

variable {σ α : Type} {db : Database σ} {n : Nat} {longer : Option Nat}

/-- Under a limit a query goes as it does under a longer one, or takes longer than the limit. -/
theorem Session.send_eq_or_timedOut (h : ∀ m ∈ longer, n ≤ m) (q : Query) (s : Session σ) :
    s.send db longer q = s.send db (some n) q ∨
      (s.send db (some n) q).result = .error (.timedOut n) := by
  cases hs : s.cancelled with
  | true => exact .inl (by rw [send_of_cancelled q hs, send_of_cancelled q hs])
  | false =>
    obtain ⟨hsettle, htoken⟩ | htimedOut :=
      (db.reply q s.database).1.settle_eq_or_timedOut h
    · simp only [send, hsettle, htoken, true_or]
    · exact .inr ((result_send q hs).trans htimedOut)

/-- Under a limit a lookup that gives up with its queries runs as it does under a longer one, or
fails because one of them took longer than the limit. -/
theorem Lookup.GivesUp.run_eq_or_timedOut {x : Inquiry (Except Failure α)} (hx : GivesUp x)
    (h : ∀ m ∈ longer, n ≤ m) (s : Session σ) :
    s.run db longer x = s.run db (some n) x ∨
      ∃ e, (s.run db (some n) x).result = .error e ∧ e.root = .timedOut n := by
  induction hx generalizing s with
  | done r => exact .inl rfl
  | @ask q resume stops _ ih =>
    have hsent : s.send db longer q = s.send db (some n) q ∨
        (s.send db (some n) q).result = .error (.timedOut n) :=
      Session.send_eq_or_timedOut h q s
    obtain hsend | htimedOut := hsent
    · simp only [Session.run, hsend]
      obtain hrest | hfails := ih (s.send db (some n) q).result (s.send db (some n) q).session
      · exact .inl (by rw [hrest])
      · exact .inr hfails
    · obtain ⟨e, hresume, hroot⟩ := stops (.timedOut n) rfl
      refine .inr ⟨e, ?_, hroot⟩
      rw [Session.run, htimedOut, hresume]
      rfl

namespace Registry

/-- If the dispatch of a line succeeds under a limit, it goes the same way under every longer limit
and without any: the result is the same, and so are the calls and the session after it. If it does
not go the same way, the shorter limit is the cause for which it fails. -/
theorem longer_limit_keeps_success {σ : Type} (db : Database σ) (mode : PatternMode)
    (input : String) (s : Session σ) {n : Nat} {longer : Option Nat} (h : ∀ m ∈ longer, n ≤ m) :
    let brief := s.run db (some n) (builtin.dispatch mode input).run
    let long := s.run db longer (builtin.dispatch mode input).run
    (∀ d, brief.result = .ok d → long.result = .ok d ∧ long.calls = brief.calls ∧
      long.session = brief.session) ∧
    (long = brief ∨ ∃ e, brief.result = .error e ∧ e.root = .timedOut n) := by
  intro brief long
  have hgive := givesUp_dispatch givesUp_builtin mode input
  have heither : long = brief ∨ ∃ e, brief.result = .error e ∧ e.root = .timedOut n :=
    hgive.run_eq_or_timedOut h s
  refine ⟨fun d hd => ?_, heither⟩
  obtain hsame | ⟨e, he, -⟩ := heither
  · rw [hsame]
    exact ⟨hd, rfl, rfl⟩
  · rw [hd] at he
    cases he

/-- A script whose answers take a while, and can be used once. -/
def slowExtensions : Script where
  entries := [
    { label := "list.extensions.find", uses := some 1
      reply := { answer := .ok { rows := [⟨[.text "hstore", .oid 7]⟩] }, arrival := .after 30 } },
    { label := "list.extensions.members", oid := some 7, uses := some 1
      reply := { answer := .ok { rows := [⟨[.text "type hstore"]⟩] }, arrival := .after 40 } }]

theorem longer_limit_keeps_success_extensions :
    (∀ m ∈ some 1000, 40 ≤ m) ∧
      let run (limit : Option Nat) := Session.run Script.database limit
        (builtin.dispatch .strict "\\dx+").run { database := slowExtensions }
      (run (some 40)).result = .ok (.handled (.extensions [⟨"hstore", ["type hstore"]⟩])) ∧
      (run (some 1000)).result = .ok (.handled (.extensions [⟨"hstore", ["type hstore"]⟩])) ∧
      (run (some 1000)).calls = (run (some 40)).calls := by
  have hlonger : ∀ m ∈ some 1000, 40 ≤ m := by
    rintro m ⟨⟩
    decide
  refine ⟨hlonger, ?_⟩
  intro run
  have hbrief : (run (some 40)).result =
      .ok (.handled (.extensions [⟨"hstore", ["type hstore"]⟩])) := rfl
  obtain ⟨hresult, hcalls, -⟩ := (longer_limit_keeps_success Script.database .strict "\\dx+"
    { database := slowExtensions } hlonger).1 _ hbrief
  exact ⟨hbrief, hresult, hcalls⟩

end Registry

end CatalogShell
