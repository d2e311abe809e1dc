import CatalogShell.Text.Blank

/-!
# Command lines

A meta-command is a line that starts with a backslash. Its first word is the verb, without one
`+` at its end, which asks for the verbose form. What follows the word, trimmed, is the argument
text.
-/

namespace CatalogShell

/-- A meta-command line in its parts. -/
structure CommandLine where
  verb : String
  args : String
  verbose : Bool
deriving DecidableEq, Repr

namespace CommandLine

/-- A word without one plus sign at its end, and whether there was one. -/
def dropPlus (word : List Char) : List Char × Bool :=
  if word.getLast? = some '+' then (word.dropLast, true) else (word, false)

/-- The parts of a line, if it is a meta-command. -/
def parse? (input : String) : Option CommandLine :=
  match input.toList with
  | '\\' :: _ =>
    let (verb, verbose) := dropPlus (Text.leadingWord input.toList)
    let args := Text.trimChars (Text.afterLeadingWord input.toList)
    some ⟨String.ofList verb, String.ofList args, verbose⟩
  | _ => none

end CommandLine

end CatalogShell
