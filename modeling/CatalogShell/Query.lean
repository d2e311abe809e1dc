import CatalogShell.Value.Basic

/-!
# Queries

A `Query` is a labelled statement made of fragments and the values bound to its placeholders.
Binding a value takes the next free placeholder, so that the `k`-th placeholder always stands
for the `k`-th bound value, whatever is added later.

* `push`, `pushIf`: add text.
* `bind`: add text and the placeholder of a new value.
* `hold`: bind a value and give its placeholder, for fragments that use it several times.
* `sql`: the whole statement.
-/

namespace CatalogShell

/-- A placeholder, counted from 1. -/
structure Placeholder where
  number : Nat
deriving DecidableEq

/-- A piece of a statement. -/
inductive Fragment where
  | text (s : String)
  | slot (p : Placeholder)
deriving DecidableEq

/-- The text of a placeholder. -/
def Placeholder.text (p : Placeholder) : String := "$" ++ p.number.repr

/-- The text of a fragment. -/
def Fragment.sql : Fragment → String
  | .text s => s
  | .slot p => p.text

/-- A labelled statement with the values bound to its placeholders. -/
structure Query where
  label : String
  fragments : List Fragment := []
  params : List Value := []
deriving DecidableEq

namespace Query

/-- A query of one text. -/
def ofText (label sql : String) : Query := { label, fragments := [.text sql] }

/-- Add fragments. -/
def append (q : Query) (fragments : List Fragment) : Query :=
  { q with fragments := q.fragments ++ fragments }

/-- Add text. -/
def push (q : Query) (sql : String) : Query := q.append [.text sql]

/-- Add text if the condition holds. -/
def pushIf (q : Query) (condition : Bool) (sql : String) : Query :=
  if condition then q.push sql else q

/-- The placeholder of the next value. -/
def next (q : Query) : Placeholder := ⟨q.params.length + 1⟩

/-- Bind a value without adding text, and give its placeholder. -/
def hold (q : Query) (v : Value) : Placeholder × Query :=
  (q.next, { q with params := q.params ++ [v] })

/-- Bind a value and add `lead` and its placeholder. -/
def bind (q : Query) (lead : String) (v : Value) : Query :=
  let (p, q) := q.hold v
  q.append [.text lead, .slot p]

/-- The value bound as the `k`-th, counted from 0. -/
def param? (q : Query) (k : Nat) : Option Value := q.params[k]?

/-- The whole statement. -/
def sql (q : Query) : String := String.join (q.fragments.map Fragment.sql)

end Query

end CatalogShell
