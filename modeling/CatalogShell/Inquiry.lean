import CatalogShell.Query
import CatalogShell.Value.Row

/-!
# Inquiries

An `Inquiry` is what a command does with the database, as a tree: it is finished, or it asks a
query and goes on in a way that depends on the answer. Nothing is sent until the tree is run
against a database, so that the queries of a command can be followed for every answer at once.

* `Inquiry.foldM`: run an inquiry, with any way to answer queries.
* `Lookup`: an inquiry that may fail.
* `Lookup.ask`, `askFirst?`, `askFirst`: a query's whole answer, its first row if there is one,
  or its first row.
-/

namespace CatalogShell

/-- The answer to a query that has been sent, or was not for a reason. -/
abbrev Answer := Except Failure ResultSet

/-- A finished result, or a query and what to do with each answer. -/
inductive Inquiry (α : Type) where
  | done (a : α)
  | ask (query : Query) (resume : Answer → Inquiry α)

namespace Inquiry

variable {α β : Type}

/-- Go on with the result. -/
def bind : Inquiry α → (α → Inquiry β) → Inquiry β
  | .done a, f => f a
  | .ask q resume, f => .ask q fun answer => (resume answer).bind f

instance : Monad Inquiry where
  pure := .done
  bind := bind

/-- Run an inquiry, given a way to answer queries. -/
def foldM {m : Type → Type} [Monad m] (answer : Query → m Answer) : Inquiry α → m α
  | .done a => pure a
  | .ask q resume => answer q >>= fun reply => (resume reply).foldM answer

theorem bind_done (x : Inquiry α) : x.bind .done = x := by
  induction x with
  | done a => rfl
  | ask q resume ih => simp [bind, ih]

theorem bind_assoc {γ : Type} (x : Inquiry α) (f : α → Inquiry β) (g : β → Inquiry γ) :
    (x.bind f).bind g = x.bind fun a => (f a).bind g := by
  induction x with
  | done a => rfl
  | ask q resume ih => simp [bind, ih]

instance : LawfulMonad Inquiry := LawfulMonad.mk' Inquiry bind_done (fun _ _ => rfl) bind_assoc

end Inquiry

/-- An inquiry that may fail. -/
abbrev Lookup (α : Type) := ExceptT Failure Inquiry α

namespace Lookup

/-- The whole answer to a query. -/
def ask (q : Query) : Lookup ResultSet := ExceptT.mk (.ask q .done)

/-- The first row of the answer, if there is one. -/
def askFirst? (q : Query) : Lookup (Option Row) := do
  let answer ← ask q
  return answer.first?

/-- The first row of the answer; it is a failure of the query if there is none. -/
def askFirst (q : Query) : Lookup Row := do
  match ← askFirst? q with
  | some row => return row
  | none => throw (.queryFailed q.label "query returned no rows")

end Lookup

end CatalogShell
