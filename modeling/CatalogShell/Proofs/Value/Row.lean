import CatalogShell.Value.Row
import Mathlib.Data.List.Forall2

/-!
# Reading rows

What it says about a row that a getter succeeds (`Row.text_eq_ok` and its like) or fails
(`Row.required_eq_error`).

A reading of several cells is a chain of getters in `Except`; `Reading.bind_eq_ok` takes it apart,
and `Reading.mapM_eq_ok` does so for the reading of all rows of an answer.
-/

namespace CatalogShell

variable {α β : Type}

/-! ## Chains of readings -/

namespace Reading

theorem bind_eq_ok {x : Except Failure α} {f : α → Except Failure β} {b : β} :
    (x >>= f) = .ok b ↔ ∃ a, x = .ok a ∧ f a = .ok b := by
  cases x with
  | error e => simp [bind, Except.bind]
  | ok a => simp [bind, Except.bind]

@[simp] theorem pure_eq_ok {a b : α} : (pure a : Except Failure α) = .ok b ↔ b = a := by
  simp [pure, Except.pure, eq_comm]

theorem bind_eq_error {x : Except Failure α} {f : α → Except Failure β} {e : Failure} :
    (x >>= f) = .error e ↔ x = .error e ∨ ∃ a, x = .ok a ∧ f a = .error e := by
  cases x with
  | error e => simp [bind, Except.bind]
  | ok a => simp [bind, Except.bind]

theorem map_eq_ok {x : Except Failure α} {f : α → β} {b : β} :
    x.map f = .ok b ↔ ∃ a, x = .ok a ∧ f a = b := by
  cases x <;> simp [Except.map]

theorem map_eq_error {x : Except Failure α} {f : α → β} {e : Failure} :
    x.map f = .error e ↔ x = .error e := by
  cases x <;> simp [Except.map]

theorem mapM_eq_ok {f : α → Except Failure β} {as : List α} {bs : List β} :
    as.mapM f = .ok bs ↔ List.Forall₂ (fun a b => f a = .ok b) as bs := by
  induction as generalizing bs with
  | nil => simp
  | cons a as ih =>
    simp only [List.mapM_cons, bind_eq_ok, pure_eq_ok, ih, List.forall₂_cons_left_iff]
    constructor
    · rintro ⟨b, hb, bs', hbs, rfl⟩
      exact ⟨b, bs', hb, hbs, rfl⟩
    · rintro ⟨b, bs', hb, hbs, rfl⟩
      exact ⟨b, hb, bs', hbs, rfl⟩

/-- What is done with each reading can be done with all of them at the end. -/
theorem map_mapM {γ : Type} (f : α → Except Failure β) (g : β → γ) (as : List α) :
    (as.mapM f).map (List.map g) = as.mapM fun a => (f a).map g := by
  induction as with
  | nil => rfl
  | cons a as ih =>
    rw [List.mapM_cons, List.mapM_cons, ← ih]
    cases f a with
    | error e => rfl
    | ok b => cases as.mapM f <;> rfl

theorem exists_of_mapM_eq_ok {f : α → Except Failure β} {as : List α} {bs : List β}
    (h : as.mapM f = .ok bs) {a : α} (ha : a ∈ as) : ∃ b, f a = .ok b := by
  have hread := mapM_eq_ok.1 h
  obtain ⟨k, hk, rfl⟩ := List.getElem_of_mem ha
  exact ⟨_, hread.get hk (hread.length_eq ▸ hk)⟩

theorem exists_of_mapM_eq_error {f : α → Except Failure β} {as : List α} {e : Failure}
    (h : as.mapM f = .error e) : ∃ a ∈ as, f a = .error e := by
  induction as with
  | nil => cases h
  | cons a as ih =>
    rw [List.mapM_cons] at h
    obtain ha | ⟨b, -, h⟩ := bind_eq_error.1 h
    · exact ⟨a, List.mem_cons_self, ha⟩
    · obtain h | ⟨bs, -, h⟩ := bind_eq_error.1 h
      · obtain ⟨a', ha', he⟩ := ih h
        exact ⟨a', List.mem_cons_of_mem a ha', he⟩
      · cases h

end Reading

/-! ## Getters -/

theorem Value.isNull_iff {v : Value} : v.isNull = true ↔ v = .null := by
  cases v <;> simp [Value.isNull]

theorem Value.text?_eq_some_iff {v : Value} {s : String} : v.text? = some s ↔ v = .text s := by
  cases v <;> simp [Value.text?]

theorem Value.bool?_eq_some_iff {v : Value} {b : Bool} : v.bool? = some b ↔ v = .boolean b := by
  cases v <;> simp [Value.bool?]

namespace Row

variable {r : Row} {label : String} {column : Nat} {expected : String} {read : Value → Option α}

/-- A nullable column gives `none` for NULL and the content of any other value. -/
theorem nullable_eq_ok {o : Option α} : r.nullable label column expected read = .ok o ↔
    (r.get? column = some .null ∧ o = none) ∨
      ∃ v a, r.get? column = some v ∧ v.isNull = false ∧ read v = some a ∧ o = some a := by
  unfold nullable
  cases r.get? column with
  | none => simp
  | some v =>
    cases hn : v.isNull with
    | true =>
      obtain rfl := Value.isNull_iff.1 hn
      simp [Value.isNull, @eq_comm _ o]
    | false =>
      have hv : v ≠ .null := fun h => by simp [Value.isNull_iff.2 h] at hn
      cases hr : read v with
      | none => simp [hn, hv, hr]
      | some a => simp [hn, hv, hr, @eq_comm _ o]

theorem nullable_eq_none : r.nullable label column expected read = .ok none ↔
    r.get? column = some .null := by
  rw [nullable_eq_ok]
  simp

theorem nullable_eq_error {e : Failure} : r.nullable label column expected read = .error e ↔
    .badCell label column expected = e ∧ (r.get? column = none ∨
      ∃ v, r.get? column = some v ∧ v.isNull = false ∧ read v = none) := by
  unfold nullable
  cases r.get? column with
  | none => simp
  | some v => cases hn : v.isNull <;> cases hr : read v <;> simp [hn, hr]

theorem required_eq_ok_iff_some {a : α} : r.required label column expected read = .ok a ↔
    r.nullable label column expected read = .ok (some a) := by
  unfold required
  split <;> simp_all

theorem required_eq_ok {a : α} : r.required label column expected read = .ok a ↔
    ∃ v, r.get? column = some v ∧ v.isNull = false ∧ read v = some a := by
  rw [required_eq_ok_iff_some, nullable_eq_ok]
  simp

/-- If nothing is read of NULL, a column without NULL gives what is read of its cell. -/
theorem required_eq_ok_iff_bind (hnull : read .null = none) {a : α} :
    r.required label column expected read = .ok a ↔ (r.get? column).bind read = some a := by
  rw [required_eq_ok, Option.bind_eq_some_iff]
  refine exists_congr fun v => and_congr_right fun _ => and_iff_right_of_imp fun ha => ?_
  cases v with
  | null => simp [hnull] at ha
  | _ => rfl

theorem required_eq_error {e : Failure} : r.required label column expected read = .error e ↔
    .badCell label column expected = e ∧ (r.get? column = none ∨ r.get? column = some .null ∨
      ∃ v, r.get? column = some v ∧ v.isNull = false ∧ read v = none) := by
  unfold required nullable
  cases r.get? column with
  | none => simp
  | some v =>
    cases hn : v.isNull with
    | true =>
      obtain rfl := Value.isNull_iff.1 hn
      simp [Value.isNull]
    | false =>
      have hv : v ≠ .null := fun h => by simp [Value.isNull_iff.2 h] at hn
      cases hr : read v <;> simp [hn, hv, hr]

/-- A column without NULL is read or blamed. -/
theorem required_of_forall_ne (h : ∀ a, r.required label column expected read ≠ .ok a) :
    r.required label column expected read = .error (.badCell label column expected) := by
  cases hr : r.required label column expected read with
  | ok a => exact absurd hr (h a)
  | error e => rw [(required_eq_error.1 hr).1]

@[simp] theorem text_eq_ok {s : String} :
    r.text label column = .ok s ↔ r.get? column = some (.text s) := by
  rw [text, required_eq_ok_iff_bind rfl, Option.bind_eq_some_iff]
  simp only [Value.text?_eq_some_iff, exists_eq_right]

@[simp] theorem text?_eq_ok {o : Option String} :
    r.text? label column = .ok o ↔ r.get? column = some (o.elim .null .text) := by
  cases o with
  | none => exact nullable_eq_none
  | some s => exact required_eq_ok_iff_some.symm.trans text_eq_ok

@[simp] theorem bool_eq_ok {b : Bool} :
    r.bool label column = .ok b ↔ r.get? column = some (.boolean b) := by
  rw [bool, required_eq_ok_iff_bind rfl, Option.bind_eq_some_iff]
  simp only [Value.bool?_eq_some_iff, exists_eq_right]

@[simp] theorem bool?_eq_ok {o : Option Bool} :
    r.bool? label column = .ok o ↔ r.get? column = some (o.elim .null .boolean) := by
  cases o with
  | none => exact nullable_eq_none
  | some b => exact required_eq_ok_iff_some.symm.trans bool_eq_ok

@[simp] theorem int_eq_ok {n : Int} :
    r.int label column = .ok n ↔ (r.get? column).bind Value.int? = some n :=
  required_eq_ok_iff_bind rfl

@[simp] theorem oid_eq_ok {n : Oid} :
    r.oid label column = .ok n ↔ (r.get? column).bind Value.oid? = some n :=
  required_eq_ok_iff_bind rfl

/-- An integer column that may be NULL gives the content of its cell. -/
theorem int?_of_eq_ok {o : Option Int} (h : r.int? label column = .ok o) :
    (r.get? column).bind Value.int? = o := by
  obtain ⟨hv, rfl⟩ | ⟨v, n, hv, -, hn, rfl⟩ := nullable_eq_ok.1 h
  · simp [hv, Value.int?]
  · simp [hv, hn]

end Row

end CatalogShell
