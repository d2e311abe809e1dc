import CatalogShell.Proofs.Value.Row

/-!
# What answers are expected to hold

`columnTypes` lists the columns of every answer that is read cell by cell, as the statement of its
query selects them: what each column holds, and whether it may be NULL. `ColumnType.Accepts` says
which cells fit.

A reading of a row that fails blames a cell that is at fault (`BlamesFault`): it names the query, a
column of its answer and what that column holds, and the row has no such cell there. The rules
follow the text of a reading, and look each column up in the table.
-/

namespace CatalogShell

/-- What the cells of a column hold that are not NULL. -/
inductive CellKind where
  | text
  | boolean
  | integer
  | oid
deriving DecidableEq, Repr

namespace CellKind

/-- The name of the kind in failures. -/
def name : CellKind → String
  | .text => "text"
  | .boolean => "boolean"
  | .integer => "integer"
  | .oid => "oid"

/-- The value is of the kind. An integer may have any width, and it is an object identifier too if
it lies below `2 ^ 32` and is not negative. -/
def Holds : CellKind → Value → Prop
  | .text, .text _ => True
  | .boolean, .boolean _ => True
  | .integer, .integer _ => True
  | .integer, .bigInt _ => True
  | .integer, .oid _ => True
  | .oid, .oid _ => True
  | .oid, .integer n => 0 ≤ n.toInt
  | .oid, .bigInt n => 0 ≤ n.toInt ∧ n.toInt < 0x100000000
  | _, _ => False

end CellKind

/-- What a column holds. -/
structure ColumnType where
  kind : CellKind
  nullable : Bool := false
deriving DecidableEq, Repr

namespace ColumnType

/-- A column without NULL. -/
def of (kind : CellKind) : ColumnType := { kind }

/-- A column that may be NULL. -/
def orNull (kind : CellKind) : ColumnType := { kind, nullable := true }

/-- The cell fits into the column. It is there, and is of the kind, or is NULL where it may be. -/
def Accepts (c : ColumnType) : Option Value → Prop
  | none => False
  | some .null => c.nullable = true
  | some v => c.kind.Holds v

/-- A value that is not NULL has to be of the kind. -/
theorem not_accepts {c : ColumnType} {v : Value} (hnull : v.isNull = false)
    (h : ¬ c.kind.Holds v) : ¬ c.Accepts (some v) := by
  cases v with
  | null => cases hnull
  | _ => exact h

end ColumnType

section Tables

open ColumnType (of orNull)

/-- The columns of the answers that are read cell by cell, under the labels of their queries. -/
def columnTypes : List (String × List ColumnType) := [
  ("resolve.relations", [of .oid, orNull .text, of .text, of .text]),
  ("describe.table_info", [of .integer, of .text, of .boolean, of .boolean, of .boolean,
    orNull .text, orNull .text, orNull .text, orNull .text, of .boolean]),
  ("describe.columns", [of .text, of .text, orNull .text, of .boolean, orNull .text, orNull .text,
    orNull .text, orNull .text, orNull .text, orNull .text, orNull .text, orNull .integer,
    orNull .text]),
  ("describe.view_definition", [orNull .text]),
  ("describe.index_footer", [of .boolean, of .boolean, of .boolean, of .boolean, orNull .boolean,
    orNull .boolean, of .text, of .text, orNull .text]),
  ("describe.sequence_owner", [orNull .text]),
  ("describe.indexes", [of .text, of .boolean, of .boolean, of .boolean, of .boolean,
    orNull .text, orNull .text, orNull .text, orNull .boolean, orNull .boolean]),
  ("describe.check_constraints", [of .text, orNull .text]),
  ("describe.foreign_keys", [of .text, orNull .text]),
  ("describe.referenced_by", [of .text, of .text, orNull .text]),
  ("describe.rules", [of .text, orNull .text, orNull .text]),
  ("describe.triggers", [of .text, orNull .text, orNull .text]),
  ("describe.partition_of", [orNull .text, orNull .text]),
  ("describe.partition_key", [orNull .text]),
  ("describe.partitions", [orNull .text]),
  ("describe.foreign_table", [of .text, orNull .text]),
  ("describe.inherits", [orNull .text]),
  ("describe.child_tables", [orNull .text]),
  ("list.tablespaces.probe", [of .boolean]),
  ("list.extensions.find", [of .text, of .oid]),
  ("list.extensions.members", [orNull .text]),
  ("show.function.lookup", [of .oid]),
  ("show.function.definition", [orNull .text])]

/-- What a column of the answer to a query holds. -/
def columnType? (label : String) (column : Nat) : Option ColumnType :=
  (columnTypes.lookup label).bind (·[column]?)

theorem columnType?_eq {label : String} {types : List ColumnType}
    (h : columnTypes.lookup label = some types) (column : Nat) :
    columnType? label column = types[column]? := by
  simp [columnType?, h]

end Tables

/-! ## Getters -/

/-- A value is no object identifier if it is no integer, or one out of range. -/
theorem Value.oid?_eq_none {v : Value} :
    v.oid? = none ↔ ∀ n, v.int? = some n → 0 ≤ n → 0x100000000 ≤ n := by
  unfold Value.oid?
  cases v.int? with
  | none => simp
  | some n =>
    simp only [Option.bind_some, ite_eq_right_iff, reduceCtorEq, imp_false, not_and,
      Option.some.injEq, forall_eq', Int.not_lt]

namespace CellKind

variable {v : Value}

theorem not_holds_of_text? (h : v.text? = none) : ¬ text.Holds v := by
  cases v <;> simp_all [Holds, Value.text?]

theorem not_holds_of_bool? (h : v.bool? = none) : ¬ boolean.Holds v := by
  cases v <;> simp_all [Holds, Value.bool?]

theorem not_holds_of_int? (h : v.int? = none) : ¬ integer.Holds v := by
  cases v <;> simp_all [Holds, Value.int?]

theorem not_holds_of_oid? (h : v.oid? = none) : ¬ oid.Holds v := by
  rw [Value.oid?_eq_none] at h
  cases v with
  | oid n =>
    have hlow := n.toNat_lt
    have hhigh := h _ rfl (by omega)
    omega
  | integer n =>
    intro hn
    have hlow := n.toInt_lt
    have hhigh := h _ rfl hn
    omega
  | bigInt n =>
    rintro ⟨hn, hlow⟩
    have hhigh := h _ rfl hn
    omega
  | _ => exact fun hn => hn

end CellKind

variable {α β : Type}

/-- Every failure of the reading is over a cell of the row that does not fit into its column of the
answer to the query with the label. The failure names that column and what it holds. -/
def BlamesFault (label : String) (row : Row) (x : Except Failure α) : Prop :=
  ∀ e, x = .error e → ∃ column c, columnType? label column = some c ∧
    e = .badCell label column c.kind.name ∧ ¬ c.Accepts (row.get? column)

namespace BlamesFault

variable {label : String} {row : Row}

/-! ## Ways to read -/

theorem ok (a : α) : BlamesFault label row (.ok a) := by
  intro e h
  cases h

theorem bind {x : Except Failure α} {f : α → Except Failure β} (hx : BlamesFault label row x)
    (hf : ∀ a, BlamesFault label row (f a)) : BlamesFault label row (x >>= f) := by
  intro e h
  obtain h | ⟨a, -, h⟩ := Reading.bind_eq_error.1 h
  · exact hx e h
  · exact hf a e h

theorem map {x : Except Failure α} (f : α → β) (hx : BlamesFault label row x) :
    BlamesFault label row (x.map f) := by
  intro e h
  cases x with
  | error e' => exact hx e (by simpa [Except.map] using h)
  | ok a => cases h

section Getters

variable {types : List ColumnType} {column : Nat} {kind : CellKind} {read : Value → Option α}
  (known : columnTypes.lookup label = some types)

include known

/-- A getter that lets NULL pass, if it refuses no value of its kind. -/
theorem nullable (hread : ∀ v, read v = none → ¬ kind.Holds v)
    (h : types[column]? = some (.orNull kind)) :
    BlamesFault label row (row.nullable label column kind.name read) := by
  intro e he
  obtain ⟨rfl, hcell⟩ := Row.nullable_eq_error.1 he
  refine ⟨column, .orNull kind, (columnType?_eq known column).trans h, rfl, ?_⟩
  obtain hnone | ⟨v, hv, hnull, hr⟩ := hcell
  · rw [hnone]
    exact fun haccepts => haccepts
  · rw [hv]
    exact ColumnType.not_accepts hnull (hread v hr)

/-- A getter that refuses NULL as well. -/
theorem required (hread : ∀ v, read v = none → ¬ kind.Holds v)
    (h : types[column]? = some (.of kind)) :
    BlamesFault label row (row.required label column kind.name read) := by
  intro e he
  obtain ⟨rfl, hcell⟩ := Row.required_eq_error.1 he
  refine ⟨column, .of kind, (columnType?_eq known column).trans h, rfl, ?_⟩
  obtain hnone | hnull | ⟨v, hv, hnull, hr⟩ := hcell
  · rw [hnone]
    exact fun haccepts => haccepts
  · rw [hnull]
    exact Bool.false_ne_true
  · rw [hv]
    exact ColumnType.not_accepts hnull (hread v hr)

theorem text (h : types[column]? = some (.of .text)) :
    BlamesFault label row (row.text label column) :=
  required known (fun _ => CellKind.not_holds_of_text?) h

theorem text? (h : types[column]? = some (.orNull .text)) :
    BlamesFault label row (row.text? label column) :=
  nullable known (fun _ => CellKind.not_holds_of_text?) h

theorem bool (h : types[column]? = some (.of .boolean)) :
    BlamesFault label row (row.bool label column) :=
  required known (fun _ => CellKind.not_holds_of_bool?) h

theorem bool? (h : types[column]? = some (.orNull .boolean)) :
    BlamesFault label row (row.bool? label column) :=
  nullable known (fun _ => CellKind.not_holds_of_bool?) h

theorem int (h : types[column]? = some (.of .integer)) :
    BlamesFault label row (row.int label column) :=
  required known (fun _ => CellKind.not_holds_of_int?) h

theorem int? (h : types[column]? = some (.orNull .integer)) :
    BlamesFault label row (row.int? label column) :=
  nullable known (fun _ => CellKind.not_holds_of_int?) h

theorem oid (h : types[column]? = some (.of .oid)) :
    BlamesFault label row (row.oid label column) :=
  required known (fun _ => CellKind.not_holds_of_oid?) h

end Getters

end BlamesFault

end CatalogShell
