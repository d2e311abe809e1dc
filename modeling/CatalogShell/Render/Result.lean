import CatalogShell.Command.Result
import CatalogShell.Render.Format
import CatalogShell.Render.Report

/-!
# Results as text

What the shell prints for a result: tables for people, or JSON.
-/

namespace CatalogShell

/-- The rows of a query as a grid, and their number. -/
def ResultSet.render (t : ResultSet) : String :=
  Grid.render .right t.columns (t.rows.map fun r => r.values.map Value.display) ++
    t.size.repr ++ " row(s) returned\n"

/-- The members of an extension. -/
def ExtensionMembers.render (x : ExtensionMembers) : String :=
  "Objects in extension \"" ++ x.name ++ "\"\n" ++
    Grid.render .left ["Object description"] (x.objects.map fun o => [o])

namespace CommandResult

/-- The tables of a result, with an empty line between them. -/
def renderTable : CommandResult → String
  | .rows answer => answer.render
  | .reports rs => "\n".intercalate (rs.map Report.render)
  | .extensions xs => "\n".intercalate (xs.map ExtensionMembers.render)

/-- A result as the format says. -/
def render (format : OutputFormat) (r : CommandResult) : String :=
  match format with
  | .table => r.renderTable
  | .json => r.toJson.pretty ++ "\n"

end CommandResult

end CatalogShell
