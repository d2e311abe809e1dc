import CatalogShell.Toml.Value

/-!
# TOML documents

A document is read statement by statement: a key with its value goes into the table that the
last header has started, or into the outermost table before any header.
-/

namespace CatalogShell.Toml

/-- A document as far as it is read, and the path of the last header. -/
structure Draft where
  root : Table := []
  header : List String := []

namespace Draft

/-- Start the table of a header. -/
def start (d : Draft) (path : List String) (key : String) : Option Draft := do
  return ⟨← d.root.openTable path key, path ++ [key]⟩

/-- Start the next table of a repeated header. -/
def startItem (d : Draft) (path : List String) (key : String) : Option Draft := do
  return ⟨← d.root.openItem path key, path ++ [key]⟩

/-- Give a key of the table that has been started its value. -/
def define (d : Draft) (path : List String) (key : String) (v : Toml) : Option Draft := do
  return { d with root := ← d.root.alter d.header (Table.define path key v) }

end Draft

/-- A statement and the rest of its line. -/
def readStatement (d : Draft) (cs : List Char) : Option (Draft × List Char) :=
  match cs with
  | '[' :: '[' :: cs => do
    let (path, key, rest) ← readKey cs
    match rest with
    | ']' :: ']' :: rest => return (← d.startItem path key, ← endLine rest)
    | _ => none
  | '[' :: cs => do
    let (path, key, rest) ← readKey cs
    match rest with
    | ']' :: rest => return (← d.start path key, ← endLine rest)
    | _ => none
  | cs => do
    let (path, key, rest) ← readKey cs
    match rest with
    | '=' :: rest =>
      let (v, rest) ← readValue (2 * rest.length + 2) 0 (skipSpace rest)
      return (← d.define path key v, ← endLine rest)
    | _ => none

/-- Statements, with empty lines and comments between them. `fuel` bounds their number. -/
def readStatements : Nat → Draft → List Char → Option Table
  | 0, _, _ => none
  | fuel + 1, d, cs =>
    match skipLines cs with
    | [] => some d.root
    | cs => (readStatement d cs).bind fun (d, rest) => readStatements fuel d rest

/-- A text without the byte-order mark at its start. -/
def dropMark : List Char → List Char
  | '\uFEFF' :: cs => cs
  | cs => cs

/-- The document that a text holds. -/
def read (s : String) : Option Table :=
  let cs := dropMark s.toList
  readStatements (cs.length + 1) {} cs

end CatalogShell.Toml
