import CatalogShell.Decimal.Layout

/-!
# JSON values and their text

Objects keep the order of their members. There are two written forms: `compact`, without any
space, and `pretty`, with one member or item a line, indented by two spaces a level.

Strings escape the quotation mark, the backslash and the characters below U+0020. A
floating-point number that is not finite is written as `null`.
-/

namespace CatalogShell

/-- A JSON value. -/
inductive Json where
  | null
  | bool (b : Bool)
  | int (n : Int)
  | float (x : Binary64)
  | str (s : String)
  | arr (items : List Json)
  | obj (members : List (String × Json))

namespace Json

/-- Numbers are written in place with at least one decimal while the exponent of the leading
digit lies between -5 and 15, and with a signed exponent otherwise. -/
def numberLayout : Layout := ⟨some (-5), some 15, true, .toEven⟩

/-- A hexadecimal digit in lower case. -/
def hexDigit (n : Nat) : Char := Nat.digitChar n

/-- One character inside a string. -/
def escapeChar (c : Char) : List Char :=
  if c = '"' then ['\\', '"']
  else if c = '\\' then ['\\', '\\']
  else if 0x20 ≤ c.toNat then [c]
  else if c = '\x08' then ['\\', 'b']
  else if c = '\t' then ['\\', 't']
  else if c = '\n' then ['\\', 'n']
  else if c = '\x0C' then ['\\', 'f']
  else if c = '\r' then ['\\', 'r']
  else ['\\', 'u', '0', '0', hexDigit (c.toNat / 16), hexDigit (c.toNat % 16)]

/-- A string with its quotation marks. -/
def quoteChars (s : String) : List Char := '"' :: (s.toList.flatMap escapeChar ++ ['"'])

/-- The text of an integer. -/
def intChars (n : Int) : List Char :=
  if n < 0 then '-' :: n.natAbs.repr.toList else n.natAbs.repr.toList

/-- The text of a floating-point number. -/
def floatChars (x : Binary64) : List Char :=
  match x.parts with
  | .finite .. => (numberLayout.writeBinary x).toList
  | _ => ['n', 'u', 'l', 'l']

/-- The text of a truth value. -/
def boolChars (b : Bool) : List Char :=
  if b then ['t', 'r', 'u', 'e'] else ['f', 'a', 'l', 's', 'e']

mutual

/-- The characters of the compact form. -/
def compactChars : Json → List Char
  | .null => ['n', 'u', 'l', 'l']
  | .bool b => boolChars b
  | .int n => intChars n
  | .float x => floatChars x
  | .str s => quoteChars s
  | .arr items => '[' :: (compactItems items ++ [']'])
  | .obj members => '{' :: (compactMembers members ++ ['}'])

/-- Items with commas between them. -/
def compactItems : List Json → List Char
  | [] => []
  | [j] => compactChars j
  | j :: js => compactChars j ++ ',' :: compactItems js

/-- Members with commas between them. -/
def compactMembers : List (String × Json) → List Char
  | [] => []
  | [(key, j)] => quoteChars key ++ ':' :: compactChars j
  | (key, j) :: rest => quoteChars key ++ ':' :: (compactChars j ++ ',' :: compactMembers rest)

end

/-- A line break and the indentation of a level. -/
def newLine (level : Nat) : List Char := '\n' :: List.replicate (2 * level) ' '

mutual

/-- The characters of the indented form at a level of indentation. -/
def prettyChars (level : Nat) : Json → List Char
  | .arr [] => ['[', ']']
  | .arr items => '[' :: (prettyItems (level + 1) items ++ newLine level ++ [']'])
  | .obj [] => ['{', '}']
  | .obj members => '{' :: (prettyMembers (level + 1) members ++ newLine level ++ ['}'])
  | .null => ['n', 'u', 'l', 'l']
  | .bool b => boolChars b
  | .int n => intChars n
  | .float x => floatChars x
  | .str s => quoteChars s

/-- Items, each on a line of its own. -/
def prettyItems (level : Nat) : List Json → List Char
  | [] => []
  | [j] => newLine level ++ prettyChars level j
  | j :: js => newLine level ++ (prettyChars level j ++ ',' :: prettyItems level js)

/-- Members, each on a line of its own. -/
def prettyMembers (level : Nat) : List (String × Json) → List Char
  | [] => []
  | [(key, j)] => newLine level ++ (quoteChars key ++ ':' :: ' ' :: prettyChars level j)
  | (key, j) :: rest =>
    newLine level ++ (quoteChars key ++ ':' :: ' ' :: (prettyChars level j ++ ',' ::
      prettyMembers level rest))

end

/-- The text without any space. -/
def compact (j : Json) : String := String.ofList j.compactChars

/-- The text with one member or item a line. -/
def pretty (j : Json) : String := String.ofList (j.prettyChars 0)

end Json

end CatalogShell
