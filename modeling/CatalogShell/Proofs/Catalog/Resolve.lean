import CatalogShell.Catalog.Resolve
import CatalogShell.Proofs.Inquiry.Explained
import CatalogShell.Proofs.Query.Build

/-!
# What a pattern resolves to

`Resolve.Stands`: the object that a row of the answer stands for; a malformed row stands for none.
`Resolve.found` is what becomes of the answer: a malformed row is a failure, and so is an answer
without rows; else each row gives its object, in the same order.
-/

namespace CatalogShell

namespace Resolve

/-- The row stands for the object. A schema that is NULL is read as empty. -/
structure Stands (row : Row) (o : ObjectRef) : Prop where
  oid : (row.get? 0).bind Value.oid? = some o.oid
  schema : row.get? 1 = some (.text o.schema) ∨ row.get? 1 = some .null ∧ o.schema = ""
  name : row.get? 2 = some (.text o.name)
  kind : ∃ code, row.get? 3 = some (.text code) ∧ o.kind = .ofText code

theorem ofRow_eq_ok {row : Row} {o : ObjectRef} : ofRow row = .ok o ↔ Stands row o := by
  simp only [ofRow, Reading.bind_eq_ok, Reading.pure_eq_ok, Row.oid_eq_ok, Row.text_eq_ok,
    Row.text?_eq_ok]
  constructor
  · rintro ⟨oid, hoid, schema, hschema, name, hname, code, hcode, rfl⟩
    refine ⟨hoid, ?_, hname, code, hcode, rfl⟩
    cases schema with
    | none => exact .inr ⟨hschema, rfl⟩
    | some schema => exact .inl hschema
  · rintro ⟨hoid, hschema, hname, code, hcode, hkind⟩
    obtain hschema | ⟨hschema, hempty⟩ := hschema
    · exact ⟨_, hoid, some o.schema, hschema, _, hname, code, hcode, by rw [← hkind]; rfl⟩
    · exact ⟨_, hoid, none, hschema, _, hname, code, hcode, by rw [← hkind, ← hempty]; rfl⟩

theorem blamesFault_ofRow (row : Row) : BlamesFault label row (ofRow row) := by
  have known : columnTypes.lookup label = some _ := rfl
  exact .bind (.oid known rfl) fun _ => .bind (.text? known rfl) fun _ =>
    .bind (.text known rfl) fun _ => .bind (.text known rfl) fun _ => .ok _

theorem label_query (p : Pattern) (kinds : List RelationKind) : (query p kinds).label = label := by
  simp only [query, Query.label_push, Query.label_named, Query.label_pushIf, Query.label_inSchema]
  split <;> rfl

theorem explains_required {ys : List Exchange} (text : String) (p : Pattern)
    (kinds : List RelationKind) : Lookup.Explains ys (required text p kinds).run := by
  refine .seq (.bind (.lookupAsk _) fun zs t _ ht => .readAll (Lookup.gives_ask.1 ht) fun row => ?_)
    fun objects => ?_
  · rw [label_query]
    exact blamesFault_ofRow row
  · cases objects with
    | nil => exact .throw (.objectNotFound text)
    | cons o objects => exact .pure _

/-! ## Answers -/

/-- What the answer resolves to. -/
def found (text : String) (t : ResultSet) : Except Failure (List ObjectRef) :=
  match t.rows.mapM ofRow with
  | .error e => .error e
  | .ok objects => if objects.isEmpty then .error (.objectNotFound text) else .ok objects

theorem required_eq (text : String) (p : Pattern) (kinds : List RelationKind) :
    required text p kinds = Lookup.ask (query p kinds) >>= fun t => liftM (found text t) := by
  unfold required all
  rw [bind_assoc]
  congr
  funext t
  unfold found
  cases t.rows.mapM ofRow with
  | error e => rfl
  | ok objects => cases objects <;> rfl

variable {text : String} {t : ResultSet}

/-- A malformed row is a failure over one of its cells. -/
theorem found_of_malformed {row : Row} (hrow : row ∈ t.rows) (h : ∀ o, ¬ Stands row o) :
    ∃ column expected, found text t = .error (.badCell label column expected) := by
  cases hm : t.rows.mapM ofRow with
  | ok objects =>
    obtain ⟨o, ho⟩ := Reading.exists_of_mapM_eq_ok hm hrow
    exact absurd (ofRow_eq_ok.1 ho) (h o)
  | error e =>
    obtain ⟨malformed, -, he⟩ := Reading.exists_of_mapM_eq_error hm
    obtain ⟨column, c, -, rfl, -⟩ := blamesFault_ofRow malformed e he
    exact ⟨column, c.kind.name, by simp [found, hm]⟩

theorem found_of_stands {os : List ObjectRef} (h : List.Forall₂ Stands t.rows os) :
    found text t = if os = [] then .error (.objectNotFound text) else .ok os := by
  have hm : t.rows.mapM ofRow = .ok os :=
    Reading.mapM_eq_ok.2 (h.imp fun _ _ => ofRow_eq_ok.2)
  cases os <;> simp [found, hm]

/-! ## Runs -/

variable {σ : Type} {db : Database σ} {limit : Option Nat} {s : Session σ} {p : Pattern}
  {kinds : List RelationKind}

theorem run_required_error (text : String) {e : Failure}
    (h : (s.send db limit (query p kinds)).result = .error e) :
    s.run db limit (required text p kinds).run =
      ⟨.error e, (s.send db limit (query p kinds)).calls,
        (s.send db limit (query p kinds)).session⟩ := by
  rw [required_eq, Session.run_ask_lift, h]
  rfl

theorem run_required_ok (text : String) (h : (s.send db limit (query p kinds)).result = .ok t) :
    s.run db limit (required text p kinds).run =
      ⟨found text t, [.query (query p kinds)], (s.send db limit (query p kinds)).session⟩ := by
  rw [required_eq, Session.run_ask_lift, h, Session.calls_send_of_ok h]
  rfl

end Resolve

end CatalogShell
