import CatalogShell.Catalog.Resolve
import CatalogShell.Command.Registry
import CatalogShell.Describe.Relation
import CatalogShell.Listing.Cluster
import CatalogShell.Listing.Extensions
import CatalogShell.Listing.Functions
import CatalogShell.Listing.Relations
import CatalogShell.Listing.Schemas
import CatalogShell.Listing.Types
import CatalogShell.Text.Numbered

/-!
# Built-in commands

The meta-commands that list and describe what is in the catalog. Most of them are one query,
made from a pattern. `Registry.builtin` has all of them; the help command, which tells about the
others, is registered last.
-/

namespace CatalogShell

namespace Handler

/-- Rows of one query that is made from a pattern. -/
def listing (query : Pattern → Bool → Query) : Handler := fun mode args verbose => do
  let pattern ← mode.compile args
  return .rows (← Lookup.ask (query pattern verbose))

/-- Relations of the given kinds. -/
def relations (kinds : List RelationKind) : Handler :=
  listing fun pattern verbose => Listing.relations pattern verbose kinds

/-- Tablespaces; the server is asked first whether it can tell their location. -/
def tablespaces : Handler := fun mode args _ => do
  let pattern ← mode.compile args
  let row ← Lookup.askFirst Listing.locationProbe
  let location ← row.bool Listing.locationProbe.label 0
  return .rows (← Lookup.ask (Listing.tablespaces pattern location))

/-- The extension of a row, with its members. -/
def extensionOfRow (label : String) (row : Row) : Lookup ExtensionMembers := do
  let name ← row.text label 0
  let oid ← row.oid label 1
  let members := Listing.extensionMembers oid
  let answer ← Lookup.ask members
  let objects ←
    (answer.rows.mapM fun row => row.text? members.label 0 : Except Failure (List (Option String)))
  return ⟨name, objects.map (·.getD "")⟩

/-- Extensions; the verbose form lists the members of those with exactly the given name. -/
def extensions : Handler := fun mode args verbose =>
  if verbose then do
    let find := Listing.findExtensions args
    let found ← Lookup.ask find
    return .extensions (← found.rows.mapM (extensionOfRow find.label))
  else listing (fun pattern _ => Listing.extensions pattern) mode args verbose

/-- A result of one text. -/
def oneText (column text : String) : CommandResult := .rows ⟨[column], [⟨[.text text]⟩]⟩

/-- The definition of a function; the verbose form numbers the lines of its body. -/
def functionDefinition : Handler := fun _ args verbose => do
  let find := Listing.functionLookup args
  let row ← Lookup.askFirst find
  let oid ← row.oid find.label 0
  let definition := Listing.functionDefinition oid
  let answer ← Lookup.ask definition
  if !verbose then return .rows answer
  match answer.first? with
  | some row =>
    let source ← row.text? definition.label 0
    return oneText "source" (Text.numberLines (source.getD ""))
  | none => return oneText "source" (Text.numberLines "")

/-- The kinds of relations that are listed when there is nothing to describe. -/
def listedKinds : List RelationKind :=
  [.table, .partitionedTable, .view, .materializedView, .sequence, .foreignTable]

/-- Describes every relation that the pattern matches; without a pattern, lists relations. -/
def describe : Handler := fun mode args verbose => do
  let pattern ← mode.compile args
  if args = "" then return .rows (← Lookup.ask (Listing.relations pattern verbose listedKinds))
  let objects ← Resolve.required args pattern []
  return .reports (← describeAll verbose objects)

/-- Answers from a fixed table of usages and descriptions, without asking the database. -/
def help (entries : List (String × String)) : Handler := fun _ _ _ =>
  return .rows ⟨["Command", "Description"],
    entries.map fun (usage, description) => ⟨[.text usage, .text description]⟩⟩

end Handler

namespace Command

/-- The command that lists relations of the given kinds. -/
def relations (verb description : String) (kinds : List RelationKind) : Command where
  verb := verb
  usage := verb ++ "[+] [pattern]"
  description := description
  handler := .relations kinds

/-- The built-in commands but for the help command, in the order of the help text. -/
def builtin : List Command := [
  { verb := "\\l", aliases := ["\\list"], usage := "\\l[+] [pattern]"
    description := "List databases.", handler := .listing Listing.databases },
  { verb := "\\dn", usage := "\\dn[+] [pattern]"
    description := "List schemas.", handler := .listing Listing.schemas },
  { verb := "\\du", aliases := ["\\dg"], usage := "\\du[+] [pattern]"
    description := "List roles.", handler := .listing Listing.roles },
  { verb := "\\dp", aliases := ["\\z"], usage := "\\dp [pattern]"
    description := "List privileges.", handler := .listing fun p _ => Listing.privileges p },
  { verb := "\\ddp", usage := "\\ddp [pattern]"
    description := "Lists default access privilege settings."
    handler := .listing fun p _ => Listing.defaultPrivileges p },
  { verb := "\\db", usage := "\\db[+] [pattern]"
    description := "List tablespaces.", handler := .tablespaces },
  relations "\\dt" "List tables." [.table, .partitionedTable],
  relations "\\dv" "List views." [.view],
  relations "\\dm" "List materialized views." [.materializedView],
  relations "\\ds" "List sequences." [.sequence],
  relations "\\di" "List indexes." [.index, .partitionedIndex],
  { verb := "\\df", usage := "\\df[+] [pattern]"
    description := "List functions.", handler := .listing Listing.functions },
  { verb := "\\dT", usage := "\\dT[+] [pattern]"
    description := "List data types.", handler := .listing Listing.dataTypes },
  { verb := "\\dD", usage := "\\dD[+] [pattern]"
    description := "List domains.", handler := .listing Listing.domains },
  { verb := "\\dx", usage := "\\dx[+] [pattern]"
    description := "List extensions.", handler := .extensions },
  relations "\\dE" "List foreign tables." [.foreignTable],
  { verb := "\\sf", usage := "\\sf[+] FUNCNAME"
    description := "Show a function's definition.", handler := .functionDefinition },
  { verb := "\\d", usage := "\\d[+] [pattern]"
    description := "List or describe tables, views and sequences.", handler := .describe },
  { verb := "\\describe", caseSensitive := false, usage := "\\describe[+] [pattern]"
    description := "Describe tables, views and sequences.", handler := .describe }]

/-- The help command for the given usages and descriptions of other commands. -/
def help (others : List (String × String)) : Command :=
  let usage := "\\?"
  let description := "Show commands."
  { verb := "\\?", usage, description, handler := .help (others ++ [(usage, description)]) }

end Command

namespace Registry

/-- Register the help command, which tells about the commands there are now. -/
def registerHelp (g : Registry) : Registry :=
  g.register (.help (g.commands.map fun c => (c.usage, c.description)))

/-- Register all built-in commands. -/
def registerBuiltin (g : Registry) : Registry := (g.registerAll Command.builtin).registerHelp

/-- A registry of the built-in commands. -/
def builtin : Registry := registerBuiltin {}

end Registry

end CatalogShell
