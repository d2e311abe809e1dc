import CatalogShell.Listing.Filter

/-!
# Building queries

What each way to extend a query does to its label, its fragments and its parameters. With these
the text of a query is read off the steps that build it.
-/

namespace CatalogShell

namespace Query

variable (q : Query)

@[simp] theorem label_append (fragments : List Fragment) : (q.append fragments).label = q.label :=
  rfl

@[simp] theorem label_push (sql : String) : (q.push sql).label = q.label := rfl

@[simp] theorem label_pushIf (condition : Bool) (sql : String) :
    (q.pushIf condition sql).label = q.label := by
  unfold pushIf
  split <;> rfl

@[simp] theorem label_ofKinds (before : String) (codes : List Char) :
    (q.ofKinds before codes).label = q.label := rfl

@[simp] theorem label_inSchema (p : Pattern) (column otherwise : String) :
    (q.inSchema p column otherwise).label = q.label := by
  unfold inSchema
  split <;> rfl

@[simp] theorem label_named (p : Pattern) (column : String) :
    (q.named p column).label = q.label := by
  unfold named
  split <;> rfl

@[simp] theorem fragments_push (sql : String) :
    (q.push sql).fragments = q.fragments ++ [.text sql] := rfl

@[simp] theorem fragments_bind (lead : String) (v : Value) :
    (q.bind lead v).fragments = q.fragments ++ [.text lead, .slot q.next] := rfl

@[simp] theorem params_append (fragments : List Fragment) :
    (q.append fragments).params = q.params := rfl

@[simp] theorem params_push (sql : String) : (q.push sql).params = q.params := rfl

@[simp] theorem params_bind (lead : String) (v : Value) :
    (q.bind lead v).params = q.params ++ [v] := rfl

end Query

end CatalogShell
