import CatalogShell.Decimal.Binary64

/-!
# TOML values and tables

A document is a table. Tables remember how they came to be, because that decides what may still
be added to them:

* A table with a header, and a table written in braces, takes no further keys from elsewhere.
* A table that only was on the way to another header may still get a header of its own.
* A table made by a dotted key takes further dotted keys, but no header.

`Toml.Table.define` puts a value under a dotted key of a table, `Toml.Table.openTable` and
`Toml.Table.openItem` start a table under a header, and `Toml.Table.alter` changes the table
that a header has started.
-/

namespace CatalogShell

/-- How a table came to be. -/
inductive Toml.Origin where
  | header
  | onTheWay
  | dottedKey
  | braces
deriving DecidableEq, Repr

/-- A TOML value. `moment` holds dates and times in their written form, and `tables` the tables
of a repeated header. -/
inductive Toml where
  | text (s : String)
  | int (n : Int)
  | float (x : Binary64)
  | bool (b : Bool)
  | moment (written : String)
  | list (items : List Toml)
  | table (origin : Toml.Origin) (members : List (String × Toml))
  | tables (elements : List (List (String × Toml)))

namespace Toml

/-- The members of a table, in the order of their first definition. -/
abbrev Table := List (String × Toml)

namespace Table

/-- The value of a key. -/
def get? (t : Table) (key : String) : Option Toml := t.lookup key

/-- Give a key a value, in its place or at the end. -/
def set (key : String) (v : Toml) : Table → Table
  | [] => [(key, v)]
  | member :: rest => if member.1 = key then (key, v) :: rest else member :: set key v rest

/-- Add a key that is not there yet. -/
def add? (key : String) (v : Toml) (t : Table) : Option Table :=
  if (t.get? key).isSome then none else some (t ++ [(key, v)])

/-- Change the last table of a repeated header. -/
def alterLast (f : Table → Option Table) (elements : List Table) : Option Toml := do
  let last ← elements.getLast?
  return .tables (elements.dropLast ++ [← f last])

/-- Change the table at a path of a header. Tables that are not there are made on the way. -/
def alter : List String → (Table → Option Table) → Table → Option Table
  | [], f, t => f t
  | key :: path, f, t =>
    match t.get? key with
    | none => do return t.set key (.table .onTheWay (← alter path f []))
    | some (.table origin inner) =>
      if origin = .braces then none
      else do return t.set key (.table origin (← alter path f inner))
    | some (.tables elements) => do return t.set key (← alterLast (alter path f) elements)
    | some _ => none

/-- Change the table at the path before the last part of a dotted key. The innermost table has
to be made by dotted keys. -/
def alterDotted : List String → (Table → Option Table) → Table → Option Table
  | [], f, t => f t
  | key :: path, f, t =>
    match t.get? key with
    | none => do return t.set key (.table .dottedKey (← alterDotted path f []))
    | some (.table origin inner) =>
      if origin = .dottedKey ∨ (origin = .onTheWay ∧ path ≠ []) then do
        return t.set key (.table origin (← alterDotted path f inner))
      else none
    | some (.tables elements) =>
      if path = [] then none
      else do return t.set key (← alterLast (alterDotted path f) elements)
    | some _ => none

/-- Give a dotted key its value, once. -/
def define (path : List String) (key : String) (v : Toml) (t : Table) : Option Table :=
  alterDotted path (add? key v) t

/-- Start the table of a header. -/
def openTable (path : List String) (key : String) (t : Table) : Option Table :=
  alter path (fun t =>
    match t.get? key with
    | none => some (t.set key (.table .header []))
    | some (.table .onTheWay inner) => some (t.set key (.table .header inner))
    | some _ => none) t

/-- Start the next table of a repeated header. -/
def openItem (path : List String) (key : String) (t : Table) : Option Table :=
  alter path (fun t =>
    match t.get? key with
    | none => some (t.set key (.tables [[]]))
    | some (.tables elements) => some (t.set key (.tables (elements ++ [[]])))
    | some _ => none) t

end Table

end Toml

end CatalogShell
