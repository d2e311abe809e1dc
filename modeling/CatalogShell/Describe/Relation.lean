import CatalogShell.Describe.Columns
import CatalogShell.Describe.Sections
import CatalogShell.Report.Basic

/-!
# Describing relations

The description of a relation takes the facts that decide its parts, the table of columns, and
the footer, in that order. A batch of descriptions stops at the first that fails.
-/

namespace CatalogShell

/-- The description of one relation. Its kind comes from the database, not from the object. -/
def ObjectRef.describe (verbose : Bool) (o : ObjectRef) : Lookup Report := do
  let info ← TableInfo.lookup o.oid
  let rows ← Column.lookupRows info o.schema o.name verbose
  let empty : Report :=
    { schema := o.schema, name := o.name, kind := info.kind
      headers := columnHeaders info.kind verbose }
  let report ← (rows.foldlM Report.push empty : Except Failure Report)
  let footer ← Section.footer info o.schema verbose
  return { report with footer }

/-- The descriptions of relations in order. -/
def describeAll (verbose : Bool) (objects : List ObjectRef) : Lookup (List Report) :=
  objects.mapM (·.describe verbose)

end CatalogShell
