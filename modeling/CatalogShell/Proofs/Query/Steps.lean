import CatalogShell.Proofs.Query.Build
import CatalogShell.Proofs.Query.Mention
import Mathlib.Data.List.Forall2
import Mathlib.Data.List.Nodup
import Mathlib.Data.List.ReduceOption

/-!
# Building a query step by step

A query is built by steps that add text, bind values or do both (`QueryStep`). A step that binds a
value takes the next placeholder; `performAll` records which placeholder each step took. The text
that a step writes is spelled out in `QueryStep.text`: for the `k`-th placeholder it is `$k`, the
dollar sign and the decimal digits of `k`.

* `perform`: what one step does to the parameters (`params_perform`), the fragments
  (`fragments_perform`) and the text (`sql_perform`), and the placeholder that it takes
  (`taken_perform`).
* `Query.build_keeps_placeholders`: whatever steps follow, a placeholder stands for the value with
  which it was taken, and what was written stays.
-/

namespace CatalogShell

/-- What a fragment writes. A placeholder is a dollar sign and the digits of its number. -/
def Fragment.written : Fragment → String
  | .text s => s
  | .slot p => String.ofList ('$' :: Nat.toDigits 10 p.number)

theorem Placeholder.text_eq_written (p : Placeholder) : p.text = Fragment.written (.slot p) :=
  String.toList_inj.1 ((toList_slot p).trans String.toList_ofList.symm)

theorem Fragment.sql_eq_written : ∀ f : Fragment, f.sql = f.written
  | .text _ => rfl
  | .slot p => p.text_eq_written

/-- A step in building a query. -/
inductive QueryStep where
  /-- Add text. -/
  | push (sql : String)
  /-- Add text if the condition holds. -/
  | pushIf (condition : Bool) (sql : String)
  /-- Bind a value and add `lead` and its placeholder. -/
  | bind (lead : String) (v : Value)
  /-- Bind a value, for fragments that are added later. -/
  | hold (v : Value)
  /-- Add fragments, among them placeholders of values that are held. -/
  | append (fragments : List Fragment)

namespace QueryStep

/-- The placeholder that the step takes, if it takes one, and the query after it. -/
def perform (q : Query) : QueryStep → Option Placeholder × Query
  | push sql => (none, q.push sql)
  | pushIf condition sql => (none, q.pushIf condition sql)
  | bind lead v => (some q.next, q.bind lead v)
  | hold v => (some (q.hold v).1, (q.hold v).2)
  | append fragments => (none, q.append fragments)

/-- What steps have built: the placeholder that each of them took, and the query. -/
structure Built where
  taken : List (Option Placeholder)
  query : Query

/-- The steps one after the other. -/
def performAll : List QueryStep → Query → Built
  | [], q => ⟨[], q⟩
  | step :: steps, q =>
    let first := step.perform q
    let rest := performAll steps first.2
    ⟨first.1 :: rest.taken, rest.query⟩

/-- The value that the step binds. -/
def value? : QueryStep → Option Value
  | bind _ v => some v
  | hold v => some v
  | _ => none

/-- The text that the step writes if it takes the placeholder. -/
def text : QueryStep → Option Placeholder → String
  | push sql, _ => sql
  | pushIf condition sql, _ => if condition then sql else ""
  | bind lead _, taken => lead ++ taken.elim "" fun p => Fragment.written (.slot p)
  | hold _, _ => ""
  | append fragments, _ => String.join (fragments.map Fragment.written)

/-! ## One step -/

variable (q : Query) (step : QueryStep) (steps : List QueryStep)

theorem label_perform : (step.perform q).2.label = q.label := by
  cases step with
  | pushIf condition sql => exact Query.label_pushIf q condition sql
  | _ => rfl

theorem params_perform : (step.perform q).2.params = q.params ++ step.value?.toList := by
  cases step with
  | pushIf condition sql => cases condition <;> simp [perform, Query.pushIf, value?]
  | _ => simp [perform, value?, Query.hold]

/-- A step takes a placeholder if it binds a value, and then it takes the next one. -/
theorem taken_perform : (step.perform q).1 = step.value?.map fun _ => q.next := by
  cases step <;> rfl

theorem fragments_perform : q.fragments <+: (step.perform q).2.fragments := by
  cases step with
  | pushIf condition sql => cases condition <;> simp [perform, Query.pushIf]
  | hold v => exact List.prefix_rfl
  | _ => exact List.prefix_append _ _

theorem sql_perform : (step.perform q).2.sql = q.sql ++ step.text (step.perform q).1 := by
  cases step with
  | pushIf condition sql =>
    cases condition <;> simp [perform, text, Query.pushIf, Query.sql, Fragment.sql]
  | hold v => simp [perform, text, Query.sql, Query.hold]
  | append fragments =>
    simp [perform, text, Query.sql, Query.append, funext Fragment.sql_eq_written]
  | bind lead v => simp [perform, text, Query.sql, Fragment.sql, Placeholder.text_eq_written]
  | push sql => simp [perform, text, Query.sql, Fragment.sql]

/-! ## All steps -/

/-- In the query the placeholder that the step took stands for the value that the step bound, and
as a text it is the dollar sign and the number. A step that binds no value took none. -/
inductive Stands (q : Query) : QueryStep → Option Placeholder → Prop
  | value {step : QueryStep} {v : Value} {p : Placeholder} (bound : step.value? = some v)
      (spelled : p.text.toList = '$' :: Nat.toDigits 10 p.number)
      (stands : q.param? (p.number - 1) = some v) : Stands q step (some p)
  | none {step : QueryStep} (bound : step.value? = none) : Stands q step none

theorem performAll_append (later : List QueryStep) : performAll (steps ++ later) q =
    let first := performAll steps q
    let rest := performAll later first.query
    ⟨first.taken ++ rest.taken, rest.query⟩ := by
  induction steps generalizing q with
  | nil => rfl
  | cons step steps ih => simp only [List.cons_append, performAll, ih]

theorem label_performAll : (performAll steps q).query.label = q.label := by
  induction steps generalizing q with
  | nil => rfl
  | cons step steps ih => exact (ih _).trans (label_perform q step)

theorem params_performAll :
    (performAll steps q).query.params = q.params ++ steps.filterMap value? := by
  induction steps generalizing q with
  | nil => simp [performAll]
  | cons step steps ih =>
    rw [performAll, ih, params_perform, List.append_assoc]
    cases h : step.value? <;> simp [h]

theorem fragments_performAll : q.fragments <+: (performAll steps q).query.fragments := by
  induction steps generalizing q with
  | nil => exact List.prefix_rfl
  | cons step steps ih => exact (fragments_perform q step).trans (ih _)

theorem sql_performAll : (performAll steps q).query.sql =
    q.sql ++ String.join (List.zipWith text steps (performAll steps q).taken) := by
  induction steps generalizing q with
  | nil => simp [performAll]
  | cons step steps ih =>
    rw [performAll, ih, sql_perform, List.zipWith_cons_cons, String.join_cons, String.append_assoc]

/-- The placeholders are numbered from the next one on. -/
theorem numbers_performAll :
    (performAll steps q).taken.reduceOption.map Placeholder.number =
      List.range' (q.params.length + 1) (steps.filterMap value?).length := by
  induction steps generalizing q with
  | nil => rfl
  | cons step steps ih =>
    have hrest := ih (step.perform q).2
    rw [params_perform] at hrest
    rw [performAll, List.filterMap_cons]
    dsimp only
    rw [taken_perform]
    cases hvalue : step.value? with
    | none => simpa [hvalue] using hrest
    | some v =>
      rw [hvalue, Option.toList_some, List.length_append] at hrest
      rw [Option.map_some, List.reduceOption_cons_of_some, List.map_cons, hrest]
      rfl

/-- A value stays where it was bound, as long as the parameters are only added to. -/
theorem stands_performAll {result : Query}
    (h : (performAll steps q).query.params <+: result.params) :
    List.Forall₂ (Stands result) steps (performAll steps q).taken := by
  induction steps generalizing q with
  | nil => exact .nil
  | cons step steps ih =>
    refine .cons ?_ (ih _ h)
    rw [taken_perform]
    cases hvalue : step.value? with
    | none => exact .none hvalue
    | some v =>
      rw [performAll, params_performAll, params_perform, hvalue, List.append_assoc] at h
      obtain ⟨more, hmore⟩ := h
      refine .value hvalue (toList_slot q.next) ?_
      change result.params[q.params.length]? = some v
      rw [← hmore]
      simp

end QueryStep

namespace Query

open QueryStep (value? text performAll Stands)

/-- What the steps build from an empty query. -/
def build (label : String) (steps : List QueryStep) : QueryStep.Built :=
  performAll steps { label }

/-- Steps that bind a value take the placeholders 1, 2, 3, … in their order. The query has one
parameter for each of them, and its text is what the steps wrote, `$k` where a step wrote the `k`-th
placeholder. However it is built further, each of these placeholders stands for the value of its
step and is handed out as the text `$k`, and the parameters and fragments that are there stay the
first ones. -/
theorem build_keeps_placeholders (label : String) (steps later : List QueryStep) :
    let built := build label steps
    let result := build label (steps ++ later)
    built.taken.reduceOption.map Placeholder.number = List.range' 1 built.query.params.length ∧
    built.taken.reduceOption.Nodup ∧
    built.query.label = label ∧
    built.query.params = steps.filterMap value? ∧
    built.query.sql = String.join (List.zipWith text steps built.taken) ∧
    List.Forall₂ (Stands result.query) steps built.taken ∧
    built.taken <+: result.taken ∧
    built.query.params <+: result.query.params ∧
    built.query.fragments <+: result.query.fragments := by
  intro built result
  have hparams : built.query.params = steps.filterMap value? :=
    QueryStep.params_performAll { label } steps
  have hnumbers : built.taken.reduceOption.map Placeholder.number =
      List.range' 1 (steps.filterMap value?).length :=
    QueryStep.numbers_performAll { label } steps
  have hsql : built.query.sql = String.join (List.zipWith text steps built.taken) :=
    (QueryStep.sql_performAll { label } steps).trans String.empty_append
  have hresult : result = ⟨built.taken ++ (performAll later built.query).taken,
      (performAll later built.query).query⟩ :=
    QueryStep.performAll_append { label } steps later
  have hkept : built.query.params <+: result.query.params := by
    rw [hresult, QueryStep.params_performAll]
    exact List.prefix_append _ _
  have hdistinct : (built.taken.reduceOption.map Placeholder.number).Nodup := by
    rw [hnumbers]
    exact List.nodup_range'
  refine ⟨by rw [hparams, hnumbers], List.Nodup.of_map _ hdistinct,
    QueryStep.label_performAll _ steps, hparams, hsql,
    QueryStep.stands_performAll _ steps hkept, ?_, hkept, ?_⟩
  · rw [hresult]
    exact List.prefix_append _ _
  · rw [hresult]
    exact QueryStep.fragments_performAll _ later

/-- One placeholder in two comparisons. -/
example :
    let steps : List QueryStep := [.push "SELECT 1 WHERE ", .hold (.text "^(int)$"),
      .append [.text "(a ~ ", .slot ⟨1⟩, .text " OR b ~ ", .slot ⟨1⟩, .text ")"],
      .pushIf false " AND never", .bind " AND c = " (.oid 7)]
    (build "t" steps).taken = [none, some ⟨1⟩, none, none, some ⟨2⟩] ∧
      (build "t" steps).query.params = [.text "^(int)$", .oid 7] ∧
      (build "t" steps).query.sql = "SELECT 1 WHERE (a ~ $1 OR b ~ $1) AND c = $2" := by
  decide

end Query

end CatalogShell
