/-!
# Quoted identifiers

An identifier may stand bare in a statement when it starts with a lower-case letter or an
underscore and holds only those and digits. Any other is written between double quotes, with
each double quote in it written twice.
-/

namespace CatalogShell.Text

/-- ASCII lower-case letters and the underscore. -/
def isBareStart (c : Char) : Bool := c.isLower || c = '_'

/-- What may follow at later places of a bare identifier. -/
def isBarePart (c : Char) : Bool := c.isLower || c.isDigit || c = '_'

/-- The identifier may stand without quotes. -/
def isBare : List Char → Bool
  | [] => false
  | c :: cs => isBareStart c && (c :: cs).all isBarePart

/-- Every double quote written twice. -/
def doubleQuotes : List Char → List Char
  | [] => []
  | c :: cs => if c = '"' then '"' :: '"' :: doubleQuotes cs else c :: doubleQuotes cs

/-- The characters of an identifier as it is written in a statement. -/
def quoteIdentChars (cs : List Char) : List Char :=
  if isBare cs then cs else '"' :: (doubleQuotes cs ++ ['"'])

/-- An identifier as it is written in a statement. -/
def quoteIdent (s : String) : String := String.ofList (quoteIdentChars s.toList)

end CatalogShell.Text
