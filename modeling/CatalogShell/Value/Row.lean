import CatalogShell.Failure
import CatalogShell.Value.Basic

/-!
# Rows and result sets

A `Row` is read through getters, which name the query and the column in their failures. For
each type there is a getter that refuses NULL and one that gives `none` for it.
-/

namespace CatalogShell

/-- One row of an answer. -/
structure Row where
  values : List Value
deriving DecidableEq, Inhabited

/-- The answer to a query. -/
structure ResultSet where
  columns : List String := []
  rows : List Row := []
deriving DecidableEq, Inhabited

namespace Row

/-- The number of values. -/
def size (r : Row) : Nat := r.values.length

def isEmpty (r : Row) : Bool := r.values.isEmpty

/-- The value at a column, if there is one. -/
def get? (r : Row) (column : Nat) : Option Value := r.values[column]?

section Getters

variable (r : Row) (label : String) (column : Nat)

/-- A nullable column: `read` gives the content of a value of the expected type. -/
def nullable {α : Type} (expected : String) (read : Value → Option α) :
    Except Failure (Option α) :=
  match r.get? column with
  | none => .error (.badCell label column expected)
  | some v =>
    if v.isNull then .ok none
    else match read v with
      | some a => .ok (some a)
      | none => .error (.badCell label column expected)

/-- A column without NULL. -/
def required {α : Type} (expected : String) (read : Value → Option α) : Except Failure α :=
  match r.nullable label column expected read with
  | .ok (some a) => .ok a
  | .ok none => .error (.badCell label column expected)
  | .error e => .error e

/-- Text, or `none` for NULL. -/
def text? : Except Failure (Option String) := r.nullable label column "text" Value.text?

/-- Text that is not NULL. -/
def text : Except Failure String := r.required label column "text" Value.text?

/-- A truth value, or `none` for NULL. -/
def bool? : Except Failure (Option Bool) := r.nullable label column "boolean" Value.bool?

/-- A truth value that is not NULL. -/
def bool : Except Failure Bool := r.required label column "boolean" Value.bool?

/-- An integer of any width, or `none` for NULL. -/
def int? : Except Failure (Option Int) := r.nullable label column "integer" Value.int?

/-- An integer of any width that is not NULL. -/
def int : Except Failure Int := r.required label column "integer" Value.int?

/-- An object identifier that is not NULL. -/
def oid : Except Failure Oid := r.required label column "oid" Value.oid?

end Getters

end Row

namespace ResultSet

/-- The first row, if there is one. -/
def first? (t : ResultSet) : Option Row := t.rows.head?

/-- The number of rows. -/
def size (t : ResultSet) : Nat := t.rows.length

def isEmpty (t : ResultSet) : Bool := t.rows.isEmpty

end ResultSet

end CatalogShell
