import CatalogShell.Settings.Basic
import CatalogShell.Toml.Reader

/-!
# Settings files

A settings file is a TOML document. Keys that name no setting are ignored; a setting of a wrong
type or out of its range makes the file unusable.
-/

namespace CatalogShell

namespace Toml

/-- The text of a string. -/
def text? : Toml → Option String
  | .text s => some s
  | _ => none

/-- The truth value. -/
def bool? : Toml → Option Bool
  | .bool b => some b
  | _ => none

/-- The number, if it lies between zero and `last`. -/
def natUpTo? (last : Nat) : Toml → Option Nat
  | .int n => if 0 ≤ n ∧ n ≤ last then some n.toNat else none
  | _ => none

/-- The value holds nothing: an empty list or table. -/
def isVoid : Toml → Bool
  | .list items => items.isEmpty
  | .table _ members => members.isEmpty
  | _ => false

/-- The name of a choice: a string, or the only key of a table, with nothing under it. -/
def choiceName? : Toml → Option String
  | .text s => some s
  | .table _ [(name, v)] => if v.isVoid then some name else none
  | _ => none

end Toml

/-- The output format of a name. -/
def OutputFormat.ofName? (name : String) : Option OutputFormat :=
  match name with
  | "table" => some .table
  | "json" => some .json
  | _ => none

namespace Settings

/-- A key of a document, if it is there. It is an error if `read` refuses its value. -/
def entry {α : Type} (t : Toml.Table) (key : String) (read : Toml → Option α) :
    Option (Option α) :=
  match t.get? key with
  | none => some none
  | some v => (read v).map some

/-- The settings that a document gives. -/
def ofTable? (t : Toml.Table) : Option Settings := do
  let start : Settings := {}
  let host ← entry t "host" Toml.text?
  let port ← entry t "port" (Toml.natUpTo? 65535)
  let user ← entry t "user" Toml.text?
  let password ← entry t "password" Toml.text?
  let database ← entry t "dbname" Toml.text?
  let statementTimeout ← entry t "statement_timeout" (Toml.natUpTo? 0xFFFFFFFFFFFFFFFF)
  let strictPatterns ← entry t "strict_patterns" Toml.bool?
  let output ← entry t "output" fun v => v.choiceName?.bind OutputFormat.ofName?
  return {
    host := host.getD start.host, port := (port.map UInt16.ofNat).getD start.port
    user, password, database, statementTimeout
    strictPatterns := strictPatterns.getD start.strictPatterns
    output := output.getD start.output }

/-- The settings that the text of a file gives. -/
def ofText (text : String) : Except Failure Settings :=
  match (Toml.read text).bind ofTable? with
  | some s => .ok s
  | none => .error .malformedSettings

/-- What is found at the path of a settings file. -/
inductive File where
  | missing
  | content (bytes : Bytes)

/-- The settings of a file. -/
def ofFile : File → Except Failure Settings
  | .missing => .error (.unreadable "No such file or directory (os error 2)")
  | .content bytes =>
    match Text.Utf8.decode? bytes with
    | some text => ofText text
    | none => .error (.unreadable "stream did not contain valid UTF-8")

/-- The settings of a file, if one is given, with what a connection string names, if one is
given. -/
def load (file : Option File) (url : Option String) : Except Failure Settings := do
  let s ← file.elim (pure {}) ofFile
  url.elim (pure s) s.withUrl

end Settings

end CatalogShell
