import CatalogShell.Proofs.Json.Writer
import CatalogShell.Value.Json
import Mathlib.Data.List.Forall2

/-!
# Result sets and objects are read back

What is written of a value has no mark of its kind. So an integer is read back in the narrowest
width that holds it (`Value.reread`), and every other value as itself. Nothing that reads a value
can tell the difference (`Value.Alike`), and so no getter of a row can (`Row.SameReadings`). An
object is read back as it was.

Floating-point numbers are left out: those that are not finite are written as `null`.
-/

namespace CatalogShell

open Json (Draft)

/-! ## Lists -/

/-- Items that are read one by one are read as a list. -/
theorem Json.mapM_drafts {α β : Type} {write : α → Json} {read : Draft → Option β} {g : α → β}
    {as : List α} (h : ∀ a ∈ as, read (write a).draft = some (g a)) :
    (Json.drafts (as.map write)).mapM read = some (as.map g) := by
  induction as with
  | nil => rfl
  | cons a as ih =>
    rw [List.forall_mem_cons] at h
    rw [List.map_cons, Json.drafts, List.mapM_cons, h.1, ih h.2]
    rfl

theorem Json.mapM_text?_drafts (texts : List String) :
    (Json.drafts (texts.map .str)).mapM Draft.text? = some texts := by
  have hread := @Json.mapM_drafts _ _ Json.str Draft.text? id texts fun _ _ => rfl
  rwa [List.map_id] at hread

theorem Json.exact_texts (texts : List String) : (Json.arr (texts.map .str)).Exact := by
  refine .arr fun j hj => ?_
  obtain ⟨s, -, rfl⟩ := List.mem_map.1 hj
  exact .str s

/-! ## Values -/

namespace Value

/-- The value is a floating-point number. -/
def isFloat : Value → Bool
  | .float _ => true
  | _ => false

/-- Two values that are the same up to the width of an integer: all readings of them agree, and so
does what is shown and what is written of them. -/
structure Alike (v w : Value) : Prop where
  isNull : w.isNull = v.isNull
  bool? : w.bool? = v.bool?
  int? : w.int? = v.int?
  oid? : w.oid? = v.oid?
  text? : w.text? = v.text?
  display : w.display = v.display
  toJson : w.toJson = v.toJson
  /-- The kinds differ only if both values are integers. -/
  kind : w = v ∨ ∃ n, v.int? = some n ∧ w.int? = some n

variable {v w : Value} {n : Int}

theorem Alike.refl (v : Value) : Alike v v :=
  ⟨rfl, rfl, rfl, rfl, rfl, rfl, rfl, .inl rfl⟩

theorem showInt_natCast (n : Nat) : showInt n = n.repr := by
  rw [showInt, if_neg (by omega), Int.natAbs_natCast]

/-- Everything that can be read of an integer is told by the number. -/
theorem readings_of_int? (h : v.int? = some n) :
    v.isNull = false ∧ v.bool? = none ∧ v.text? = none ∧ v.display = showInt n ∧
      v.toJson = .int n := by
  cases v with
  | integer | bigInt =>
    cases h
    exact ⟨rfl, rfl, rfl, rfl, rfl⟩
  | oid =>
    cases h
    exact ⟨rfl, rfl, rfl, (showInt_natCast _).symm, rfl⟩
  | _ => cases h

theorem Alike.of_int? (hv : v.int? = some n) (hw : w.int? = some n) : Alike v w := by
  obtain ⟨hnull, hbool, htext, hdisplay, hjson⟩ := readings_of_int? hv
  obtain ⟨hnull', hbool', htext', hdisplay', hjson'⟩ := readings_of_int? hw
  exact ⟨hnull'.trans hnull.symm, hbool'.trans hbool.symm, hw.trans hv.symm,
    by rw [Value.oid?, Value.oid?, hv, hw], htext'.trans htext.symm,
    hdisplay'.trans hdisplay.symm, hjson'.trans hjson.symm, .inr ⟨n, hv, hw⟩⟩

/-- The value that is read of what is written of a value. -/
def reread (v : Value) : Value :=
  match v.int? with
  | some n => .ofInt n
  | none => v

theorem bounds_of_int? (h : v.int? = some n) :
    -0x8000000000000000 ≤ n ∧ n < 0x8000000000000000 := by
  cases v with
  | integer x =>
    cases h
    have hlow := x.le_toInt
    have hhigh := x.toInt_lt
    omega
  | bigInt x =>
    cases h
    exact ⟨x.le_toInt, x.toInt_lt⟩
  | oid x =>
    cases h
    have hhigh := x.toNat_lt
    omega
  | _ => cases h

theorem int?_ofInt (hlow : -0x8000000000000000 ≤ n) (hhigh : n < 0x8000000000000000) :
    (ofInt n).int? = some n := by
  unfold ofInt
  split
  · next h => exact congrArg some (Int32.toInt_ofInt_of_le h.1 h.2)
  · rw [if_pos ⟨hlow, hhigh⟩]
    exact congrArg some (Int64.toInt_ofInt_of_le hlow hhigh)

/-- The width of an integer is all that is lost of a value. -/
theorem alike_reread (v : Value) : Alike v v.reread := by
  unfold reread
  split
  · next n hn =>
    obtain ⟨hlow, hhigh⟩ := bounds_of_int? hn
    exact .of_int? hn (int?_ofInt hlow hhigh)
  · exact .refl v

theorem exact_toJson (h : v.isFloat = false) : v.toJson.Exact := by
  cases hint : v.int? with
  | some n =>
    obtain ⟨hlow, hhigh⟩ := bounds_of_int? hint
    obtain ⟨-, -, -, -, hjson⟩ := readings_of_int? hint
    rw [hjson]
    exact .int ⟨hlow, by omega⟩
  | none =>
    cases v with
    | null => exact .null
    | boolean b => exact .bool b
    | text s => exact .str s
    | textArray items => exact Json.exact_texts items
    | float x => cases h
    | integer | bigInt | oid => cases hint

theorem ofDraft?_draft (h : v.isFloat = false) : ofDraft? v.toJson.draft = some v.reread := by
  cases hint : v.int? with
  | some n =>
    obtain ⟨-, -, -, -, hjson⟩ := readings_of_int? hint
    rw [hjson, reread, hint]
    rfl
  | none =>
    rw [reread, hint]
    cases v with
    | null | boolean | text => rfl
    | textArray items => exact congrArg (Option.map _) (Json.mapM_text?_drafts items)
    | float x => cases h
    | integer | bigInt | oid => cases hint

end Value

/-! ## Rows and result sets -/

namespace Row

/-- The row that is read of what is written of a row. -/
def reread (r : Row) : Row := ⟨r.values.map Value.reread⟩

/-- Two rows with as many cells, of which all cells are alike. So all getters agree. -/
structure SameReadings (r r' : Row) : Prop where
  cells : List.Forall₂ Value.Alike r.values r'.values
  text : ∀ label column, r'.text label column = r.text label column
  text? : ∀ label column, r'.text? label column = r.text? label column
  bool : ∀ label column, r'.bool label column = r.bool label column
  bool? : ∀ label column, r'.bool? label column = r.bool? label column
  int : ∀ label column, r'.int label column = r.int label column
  int? : ∀ label column, r'.int? label column = r.int? label column
  oid : ∀ label column, r'.oid label column = r.oid label column

variable (r : Row) (label : String) (column : Nat) (expected : String)

section Getters

variable {α : Type} {read : Value → Option α}

/-- A getter sees of a cell only whether it is NULL and what is read of it. -/
theorem nullable_reread (h : ∀ v : Value, read v.reread = read v) :
    r.reread.nullable label column expected read = r.nullable label column expected read := by
  have hget : r.reread.get? column = (r.get? column).map Value.reread := List.getElem?_map
  unfold nullable
  rw [hget]
  cases r.get? column with
  | none => rfl
  | some v => simp [v.alike_reread.isNull, h]

theorem required_reread (h : ∀ v : Value, read v.reread = read v) :
    r.reread.required label column expected read = r.required label column expected read := by
  rw [required, required, nullable_reread r label column expected h]

end Getters

theorem sameReadings_reread (r : Row) : SameReadings r r.reread where
  cells := by
    rw [reread, List.forall₂_map_right_iff]
    exact List.forall₂_same.2 fun v _ => v.alike_reread
  text label column := r.required_reread label column _ fun v => v.alike_reread.text?
  text? label column := r.nullable_reread label column _ fun v => v.alike_reread.text?
  bool label column := r.required_reread label column _ fun v => v.alike_reread.bool?
  bool? label column := r.nullable_reread label column _ fun v => v.alike_reread.bool?
  int label column := r.required_reread label column _ fun v => v.alike_reread.int?
  int? label column := r.nullable_reread label column _ fun v => v.alike_reread.int?
  oid label column := r.required_reread label column _ fun v => v.alike_reread.oid?

variable {r}

theorem exact_toJson (h : ∀ v ∈ r.values, v.isFloat = false) : r.toJson.Exact := by
  refine .obj fun m hm => ?_
  obtain rfl := List.mem_singleton.1 hm
  refine .arr fun j hj => ?_
  obtain ⟨v, hv, rfl⟩ := List.mem_map.1 hj
  exact v.exact_toJson (h v hv)

theorem ofDraft?_draft (h : ∀ v ∈ r.values, v.isFloat = false) :
    ofDraft? r.toJson.draft = some r.reread := by
  have hfields : r.toJson.draft.fields? ["values"] =
      some [.arr (Json.drafts (r.values.map Value.toJson))] := by
    simp [toJson, Json.draft, Json.memberDrafts, Draft.fields?, Draft.member?]
  have hvalues := Json.mapM_drafts fun v hv => Value.ofDraft?_draft (h v hv)
  rw [ofDraft?, hfields]
  simp only [Option.bind_eq_bind, Option.bind_some, Draft.items?, hvalues]
  rfl

theorem toJson_reread (r : Row) : r.reread.toJson = r.toJson := by
  have hvalues : (r.values.map Value.reread).map Value.toJson = r.values.map Value.toJson := by
    rw [List.map_map]
    exact List.map_congr_left fun v _ => v.alike_reread.toJson
  rw [toJson, toJson, reread, hvalues]

end Row

namespace ResultSet

/-- The result set has no floating-point number. -/
def FloatFree (t : ResultSet) : Prop := ∀ r ∈ t.rows, ∀ v ∈ r.values, v.isFloat = false

instance (t : ResultSet) : Decidable t.FloatFree :=
  inferInstanceAs (Decidable (∀ r ∈ t.rows, ∀ v ∈ r.values, v.isFloat = false))

/-- The result set that is read of what is written of a result set. -/
def reread (t : ResultSet) : ResultSet := ⟨t.columns, t.rows.map Row.reread⟩

variable {t : ResultSet}

theorem exact_toJson (h : t.FloatFree) : t.toJson.Exact := by
  have hrows : (Json.arr (t.rows.map Row.toJson)).Exact := by
    refine .arr fun j hj => ?_
    obtain ⟨r, hr, rfl⟩ := List.mem_map.1 hj
    exact Row.exact_toJson (h r hr)
  refine .obj fun m hm => ?_
  simp only [List.mem_cons, List.not_mem_nil, or_false] at hm
  obtain rfl | rfl := hm
  · exact Json.exact_texts t.columns
  · exact hrows

theorem ofDraft?_draft (h : t.FloatFree) : ofDraft? t.toJson.draft = some t.reread := by
  have hfields : t.toJson.draft.fields? ["columns", "rows"] =
      some [.arr (Json.drafts (t.columns.map .str)),
        .arr (Json.drafts (t.rows.map Row.toJson))] := by
    simp [toJson, Json.draft, Json.memberDrafts, Draft.fields?, Draft.member?]
  have hrows := Json.mapM_drafts fun r hr => Row.ofDraft?_draft (h r hr)
  rw [ofDraft?, hfields]
  simp only [Option.bind_eq_bind, Option.bind_some, Draft.texts?, Draft.items?,
    Json.mapM_text?_drafts, hrows]
  rfl

theorem toJson_reread (t : ResultSet) : t.reread.toJson = t.toJson := by
  have hrows : (t.rows.map Row.reread).map Row.toJson = t.rows.map Row.toJson := by
    rw [List.map_map]
    exact List.map_congr_left fun r _ => r.toJson_reread
  rw [toJson, toJson, reread, hrows]

end ResultSet

/-! ## Objects -/

theorem RelationKind.exact_toJson (k : RelationKind) : k.toJson.Exact := by
  cases k with
  | other c =>
    refine .obj fun m hm => ?_
    obtain rfl := List.mem_singleton.1 hm
    exact .str _
  | _ => exact .str _

/-- The code of a kind without a name is kept, whatever character it is. -/
theorem RelationKind.ofDraft?_draft (k : RelationKind) : ofDraft? k.toJson.draft = some k := by
  cases k with
  | other c =>
    simp [toJson, jsonName?, Json.draft, Json.memberDrafts, ofDraft?, code]
  | _ => rfl

theorem ObjectRef.exact_toJson (o : ObjectRef) : o.toJson.Exact := by
  have hoid : Json.InRange o.oid.toNat := by
    have hhigh := o.oid.toNat_lt
    exact ⟨by omega, by omega⟩
  refine .obj fun m hm => ?_
  simp only [List.mem_cons, List.not_mem_nil, or_false] at hm
  obtain rfl | rfl | rfl | rfl := hm
  · exact .int hoid
  · exact .str o.schema
  · exact .str o.name
  · exact o.kind.exact_toJson

theorem oidOfDraft?_number (n : Oid) : oidOfDraft? (.number (some (.int n.toNat))) = some n := by
  have hrange : 0 ≤ (n.toNat : Int) ∧ (n.toNat : Int) < 0x100000000 := by
    have hhigh := n.toNat_lt
    omega
  simp only [oidOfDraft?]
  rw [if_pos hrange, Int.toNat_natCast, UInt32.ofNat_toNat]

theorem ObjectRef.ofDraft?_of_fields {o : ObjectRef} {d oid schema name kind : Draft}
    (h : d.fields? ["oid", "schema", "name", "kind"] = some [oid, schema, name, kind])
    (hoid : oidOfDraft? oid = some o.oid) (hschema : schema.text? = some o.schema)
    (hname : name.text? = some o.name) (hkind : RelationKind.ofDraft? kind = some o.kind) :
    ofDraft? d = some o := by
  simp [ofDraft?, h, hoid, hschema, hname, hkind]

theorem ObjectRef.ofDraft?_draft (o : ObjectRef) : ofDraft? o.toJson.draft = some o := by
  have hfields : o.toJson.draft.fields? ["oid", "schema", "name", "kind"] =
      some [.number (some (.int o.oid.toNat)), .str (some o.schema), .str (some o.name),
        o.kind.toJson.draft] := by
    simp [toJson, Json.draft, Json.memberDrafts, Draft.fields?, Draft.member?]
  exact ofDraft?_of_fields hfields (oidOfDraft?_number o.oid) rfl rfl o.kind.ofDraft?_draft

/-! ## Reading back -/

/-- What is written of a result set without floating-point numbers, in either form, is read as a
result set with the same columns and as many rows, of which every cell is alike and every getter
gives the same. It is written as before. What is written of an object is read as the same object. -/
theorem reads_what_is_written (t : ResultSet) (h : t.FloatFree) (o : ObjectRef) :
    (∃ t', (Json.read t.toJson.compact).bind ResultSet.ofDraft? = some t' ∧
      (Json.read t.toJson.pretty).bind ResultSet.ofDraft? = some t' ∧
      t'.columns = t.columns ∧ List.Forall₂ Row.SameReadings t.rows t'.rows ∧
      t'.toJson = t.toJson) ∧
    (Json.read o.toJson.compact).bind ObjectRef.ofDraft? = some o ∧
    (Json.read o.toJson.pretty).bind ObjectRef.ofDraft? = some o := by
  refine ⟨⟨t.reread, ?_, ?_, rfl, ?_, t.toJson_reread⟩, ?_, ?_⟩
  · rw [Json.read_compact (ResultSet.exact_toJson h), Option.bind_some, ResultSet.ofDraft?_draft h]
  · rw [Json.read_pretty (ResultSet.exact_toJson h), Option.bind_some, ResultSet.ofDraft?_draft h]
  · rw [ResultSet.reread, List.forall₂_map_right_iff]
    exact List.forall₂_same.2 fun r _ => r.sameReadings_reread
  · rw [Json.read_compact o.exact_toJson, Option.bind_some, o.ofDraft?_draft]
  · rw [Json.read_pretty o.exact_toJson, Option.bind_some, o.ofDraft?_draft]

theorem reads_what_is_written_limits :
    let t : ResultSet := { columns := ["n"], rows := [⟨[.bigInt (-0x80000000), .bigInt 0x80000000,
      .oid 0xFFFFFFFF, .bigInt (-1), .text "null\x00\"", .textArray []]⟩] }
    let o : ObjectRef := ⟨0xFFFFFFFF, "[]", "\x1F\\", .other '"'⟩
    t.FloatFree ∧ (∃ r', (Json.read t.toJson.compact).bind ResultSet.ofDraft? =
        some { columns := ["n"], rows := [r'] } ∧
      r'.int "q" 0 = .ok (-0x80000000) ∧ r'.int "q" 1 = .ok 0x80000000 ∧
      r'.oid "q" 2 = .ok 0xFFFFFFFF ∧ r'.oid "q" 3 = .error (.badCell "q" 3 "oid") ∧
      r'.text "q" 4 = .ok "null\x00\"" ∧ r'.text "q" 5 = .error (.badCell "q" 5 "text")) ∧
    (Json.read o.toJson.compact).bind ObjectRef.ofDraft? = some o := by
  intro t o
  have hfree : t.FloatFree := by decide
  obtain ⟨⟨t', hread, -, hcolumns, hrows, -⟩, hobject, -⟩ := reads_what_is_written t hfree o
  obtain ⟨r', rest, hsame, hrest, hcons⟩ := List.forall₂_cons_left_iff.1 hrows
  obtain rfl := List.forall₂_nil_left_iff.1 hrest
  obtain rfl : t' = { columns := ["n"], rows := [r'] } := by
    cases t'
    congr
  refine ⟨hfree, ⟨r', hread, ?_, ?_, ?_, ?_, ?_, ?_⟩, hobject⟩
  · exact (hsame.int "q" 0).trans rfl
  · exact (hsame.int "q" 1).trans rfl
  · exact (hsame.oid "q" 2).trans (by decide +kernel)
  · exact (hsame.oid "q" 3).trans (by decide +kernel)
  · exact (hsame.text "q" 4).trans rfl
  · exact (hsame.text "q" 5).trans rfl

end CatalogShell
