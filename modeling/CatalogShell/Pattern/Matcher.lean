import CatalogShell.Pattern.Basic
import CatalogShell.Regex.Reader

/-!
# Matching names on this side

The filters of a pattern can be applied to names that are already at hand, without asking the
database. Bare syntax of regular expressions passes through the compiler, so a filter may fail
to be one. The sets that it names by properties are those of any table.
-/

namespace CatalogShell

/-- The filters of a pattern, ready for matching; `none` accepts everything. -/
structure Matcher where
  schema : Option Regex
  name : Option Regex

section

variable [Regex.Properties]

/-- The expression of a filter. -/
def filterRegex (filter : String) : Except Failure Regex :=
  match Regex.read filter with
  | some r => .ok r
  | none => .error (.invalidFilter filter "it cannot be read")

/-- The expression of a filter that may be missing. -/
def filterRegex? : Option String → Except Failure (Option Regex)
  | none => .ok none
  | some filter => (filterRegex filter).map some

/-- Both filters of a pattern; the schema filter is read first. -/
def Pattern.matcher (p : Pattern) : Except Failure Matcher := do
  let schema ← filterRegex? p.schemaFilter?
  let name ← filterRegex? p.nameFilter?
  return ⟨schema, name⟩

end

/-- Both filters accept. -/
def Matcher.accepts (m : Matcher) (schema name : String) : Bool :=
  m.schema.all (·.isMatch schema) && m.name.all (·.isMatch name)

end CatalogShell
