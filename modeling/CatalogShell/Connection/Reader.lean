import CatalogShell.Connection.Keywords
import CatalogShell.Connection.Url

/-!
# Connection strings

A connection string is a URL if it starts with one of the two schemes, and otherwise a text of
keywords and values.
-/

namespace CatalogShell

/-- The schemes of URLs. -/
def urlSchemes : List String := ["postgres://", "postgresql://"]

/-- A text after the scheme that it starts with. -/
def dropScheme? (s : String) : Option (List Char) :=
  urlSchemes.findSome? fun scheme =>
    if scheme.toList.isPrefixOf s.toList then some (s.toList.drop scheme.length) else none

/-- The connection that a string asks for. -/
def Connection.parse? (s : String) : Option Connection :=
  match dropScheme? s with
  | some rest => Url.parse? rest
  | none => Keywords.parse? s.toList

end CatalogShell
