/-!
# Failures

The causes for which a command, a query or the settings can fail, and their messages.

* `Failure.message`: the text shown to the user.
* `Failure.root`: the innermost cause, under the commands that failed for it.
* `Failure.ofCommand`: whether a meta-command was recognised, although it failed.
-/

namespace CatalogShell

/-- A cause of failure. -/
inductive Failure where
  /-- No command has this verb. -/
  | unknownCommand (verb : String)
  /-- A command failed for the given cause. -/
  | commandFailed (verb : String) (cause : Failure)
  /-- A pattern ends inside quotes, where that is refused. -/
  | unterminatedQuote (pattern : String)
  /-- A compiled filter is no regular expression. -/
  | invalidFilter (filter reason : String)
  /-- A pattern matches no relation. -/
  | objectNotFound (name : String)
  /-- A query failed in the database or on the way to it. -/
  | queryFailed (label reason : String)
  /-- An answer has no value of the expected type at a column. -/
  | badCell (label : String) (column : Nat) (expected : String)
  /-- The query was cancelled. -/
  | cancelled
  /-- A query took longer than so many milliseconds. -/
  | timedOut (limit : Nat)
  /-- The settings cannot be used. -/
  | badSettings (reason : String)
  /-- A settings file is no TOML, or a value in it is of a wrong type. -/
  | malformedSettings
  /-- A file cannot be read. -/
  | unreadable (reason : String)
  /-- The program contradicts itself. -/
  | internal (reason : String)
deriving DecidableEq, Inhabited

/-- A length of time in milliseconds: in milliseconds below one second, else in seconds without
zeros at the end of the fraction. -/
def showMillis (n : Nat) : String :=
  if n = 0 then "0ns"
  else if n < 1000 then n.repr ++ "ms"
  else
    let thousandths := n % 1000
    let digits := [thousandths / 100, thousandths / 10 % 10, thousandths % 10]
    let kept := (digits.reverse.dropWhile (· = 0)).reverse
    let fraction := if kept.isEmpty then "" else "." ++ String.join (kept.map Nat.repr)
    (n / 1000).repr ++ fraction ++ "s"

namespace Failure

/-- The text shown to the user. -/
def message : Failure → String
  | .unknownCommand verb => "Unknown command: " ++ verb
  | .commandFailed verb cause => "Command " ++ verb ++ " failed: " ++ cause.message
  | .unterminatedQuote pattern =>
    "Pattern error: unterminated quoted identifier in '" ++ pattern ++ "'"
  | .invalidFilter filter reason =>
    "Pattern error: '" ++ filter ++ "' is not a valid expression: " ++ reason
  | .objectNotFound name => "Did not find any relation named " ++ name
  | .queryFailed label reason => "Query error in " ++ label ++ ": " ++ reason
  | .badCell label column expected =>
    "Query error in " ++ label ++ ": column " ++ column.repr ++ " is not " ++ expected
  | .cancelled => "Query cancelled"
  | .timedOut limit => "Query timed out after " ++ showMillis limit
  | .badSettings reason => "Config error: " ++ reason
  | .malformedSettings => "Config error: malformed settings file"
  | .unreadable reason => "I/O error: " ++ reason
  | .internal reason => "Internal error: " ++ reason

/-- The innermost cause. -/
def root : Failure → Failure
  | .commandFailed _ cause => cause.root
  | cause => cause

/-- The input was recognised as a meta-command. -/
def ofCommand : Failure → Bool
  | .unknownCommand _ => true
  | .commandFailed .. => true
  | _ => false

/-- The query was given up: the server may still be at work on it. -/
def isAbandoned : Failure → Bool
  | .cancelled => true
  | .timedOut _ => true
  | _ => false

@[simp] theorem root_root (e : Failure) : e.root.root = e.root := by
  induction e with
  | commandFailed _ _ ih => simpa [root] using ih
  | _ => rfl

end Failure

end CatalogShell
