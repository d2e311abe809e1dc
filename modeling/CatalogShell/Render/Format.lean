/-!
# Output formats
-/

namespace CatalogShell

/-- How results are printed. -/
inductive OutputFormat where
  | table
  | json
deriving DecidableEq, Repr, Inhabited

/-- The other format. -/
def OutputFormat.other : OutputFormat → OutputFormat
  | .table => .json
  | .json => .table

end CatalogShell
