/-!
# Firing modes

Rules and triggers fire in one of four modes, which the catalog knows by one-letter codes.
`FiringGroups` lists entries by mode, each list in the order in which entries were filed.
-/

namespace CatalogShell

/-- When a rule or trigger fires. -/
inductive FiringMode where
  | enabled
  | disabled
  | always
  | replica
deriving DecidableEq, Repr

/-- The mode that a code stands for, if it is known. -/
def FiringMode.ofCode? (code : String) : Option FiringMode :=
  match code with
  | "O" => some .enabled
  | "D" => some .disabled
  | "A" => some .always
  | "R" => some .replica
  | _ => none

/-- Entries by firing mode. -/
structure FiringGroups where
  enabled : List String := []
  disabled : List String := []
  always : List String := []
  replica : List String := []
deriving DecidableEq, Repr, Inhabited

namespace FiringGroups

/-- The entries of a mode. -/
def get (g : FiringGroups) : FiringMode → List String
  | .enabled => g.enabled
  | .disabled => g.disabled
  | .always => g.always
  | .replica => g.replica

/-- File an entry under a mode, after those already there. -/
def file (g : FiringGroups) (mode : FiringMode) (entry : String) : FiringGroups :=
  match mode with
  | .enabled => { g with enabled := g.enabled ++ [entry] }
  | .disabled => { g with disabled := g.disabled ++ [entry] }
  | .always => { g with always := g.always ++ [entry] }
  | .replica => { g with replica := g.replica ++ [entry] }

/-- No mode has an entry. -/
def isEmpty (g : FiringGroups) : Bool :=
  g.enabled.isEmpty && g.disabled.isEmpty && g.always.isEmpty && g.replica.isEmpty

/-- The number of entries of all modes. -/
def size (g : FiringGroups) : Nat :=
  g.enabled.length + g.disabled.length + g.always.length + g.replica.length

/-- Filing adds the entry at the end of its mode and changes no other mode. -/
theorem get_file (g : FiringGroups) (mode mode' : FiringMode) (entry : String) :
    (g.file mode entry).get mode' =
      if mode' = mode then g.get mode' ++ [entry] else g.get mode' := by
  cases mode <;> cases mode' <;> rfl

end FiringGroups

end CatalogShell
