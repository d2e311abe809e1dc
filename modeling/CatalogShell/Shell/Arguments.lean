import CatalogShell.Settings.File

/-!
# Arguments of the program

A settings file, a connection string, and a switch for JSON output, in any order. Of several
files or strings the last one counts.
-/

namespace CatalogShell

/-- What the program is called with. -/
structure Arguments where
  /-- The path of a settings file. -/
  file : Option String := none
  url : Option String := none
  json : Bool := false
deriving DecidableEq, Repr

namespace Arguments

/-- Why arguments are refused. -/
inductive Refusal where
  | missingPath
  | unknownOption (option : String)
deriving DecidableEq, Repr

/-- The text of a refusal. -/
def Refusal.message : Refusal → String
  | .missingPath => "--config needs a file path"
  | .unknownOption option => "unknown option: " ++ option

/-- Reads arguments on top of those before. -/
def readOnto (a : Arguments) : List String → Except Refusal Arguments
  | [] => .ok a
  | [arg] =>
    if arg = "--config" ∨ arg = "-c" then .error .missingPath
    else if arg = "--json" then .ok { a with json := true }
    else if arg.toList.head? = some '-' then .error (.unknownOption arg)
    else .ok { a with url := some arg }
  | arg :: next :: rest =>
    if arg = "--config" ∨ arg = "-c" then readOnto { a with file := some next } rest
    else if arg = "--json" then readOnto { a with json := true } (next :: rest)
    else if arg.toList.head? = some '-' then .error (.unknownOption arg)
    else readOnto { a with url := some arg } (next :: rest)

/-- Reads arguments. -/
def read (args : List String) : Except Refusal Arguments := readOnto {} args

/-- The settings that arguments ask for. -/
def settings (files : String → Settings.File) (a : Arguments) : Except Failure Settings := do
  let s ← Settings.load (a.file.map files) a.url
  return if a.json then { s with output := .json } else s

end Arguments

end CatalogShell
