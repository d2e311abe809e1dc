import CatalogShell.Report.Json
import CatalogShell.Value.Json

/-!
# Results of commands

A meta-command gives rows, reports on relations, or extensions with their members. The JSON form
names which of them it is.
-/

namespace CatalogShell

/-- An extension and the objects that belong to it. -/
structure ExtensionMembers where
  name : String
  objects : List String
deriving DecidableEq, Repr, Inhabited

/-- What a meta-command gives. -/
inductive CommandResult where
  | rows (answer : ResultSet)
  | reports (reports : List Report)
  | extensions (extensions : List ExtensionMembers)
deriving DecidableEq, Inhabited

/-- The JSON form of an extension. -/
def ExtensionMembers.toJson (x : ExtensionMembers) : Json :=
  .obj [("name", .str x.name), ("objects", .arr (x.objects.map .str))]

namespace CommandResult

/-- The name of the kind of result. -/
def kindName : CommandResult → String
  | .rows _ => "Rows"
  | .reports _ => "DescribeTable"
  | .extensions _ => "ExtensionVerbose"

/-- The JSON form of the content. -/
def data : CommandResult → Json
  | .rows answer => answer.toJson
  | .reports rs => .arr (rs.map Report.toJson)
  | .extensions xs => .arr (xs.map ExtensionMembers.toJson)

/-- The JSON form of a result. -/
def toJson (r : CommandResult) : Json := .obj [("kind", .str r.kindName), ("data", r.data)]

/-- The rows, if the result is rows. -/
def rows? : CommandResult → Option ResultSet
  | .rows answer => some answer
  | _ => none

/-- The reports, if the result is reports. -/
def reports? : CommandResult → Option (List Report)
  | .reports rs => some rs
  | _ => none

end CommandResult

end CatalogShell
