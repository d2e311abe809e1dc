import CatalogShell.Render.Format
import CatalogShell.Text.Blank

/-!
# The loop over input lines

Lines are taken one by one. A line that is blank says nothing. While no statement is pending, a
line may be a command of the shell itself, which starts with a dot, or a meta-command, which
starts with a backslash and is carried out at once. Every other line is added to the pending
statement, which is complete after a line that ends with a semicolon.

* `Loop.take`: what a line leads to, and the loop after it.
* `Loop.executions`: all that is carried out over several lines, with the output format of each.
-/

namespace CatalogShell

/-- The state between two lines. -/
structure Loop where
  /-- The lines of the statement that is not complete yet, each with a newline. -/
  pending : String := ""
  output : OutputFormat := .table
deriving DecidableEq, Repr

/-- What a line leads to. -/
inductive LineEffect where
  | quit
  | print (text : String)
  | execute (input : String)
deriving DecidableEq, Repr

namespace Loop

/-- The help text of the shell. -/
def helpText : String := "\n".intercalate [
  "",
  "Commands:",
  "  .help              Show this help message",
  "  .quit, \\q          Exit",
  "  .json              Toggle JSON output",
  "  .clear             Clear screen",
  "",
  "Meta-commands:",
  "  \\?                 List every meta-command",
  "  \\d[+] [pattern]    Describe relations, or list them without a pattern",
  "  \\dt[+] [pattern]   List tables",
  "",
  "SQL statements end with ';' and may span several lines.",
  "Ctrl-C cancels the running command.",
  "",
  ""]

/-- The text that clears a terminal. -/
def clearText : String := "\x1B[2J\x1B[1;1H"

/-- The prompt for the next line. -/
def prompt (l : Loop) : String := if l.pending = "" then "pgmeta> " else "...> "

/-- The line completes a statement. -/
def completes (line : String) : Bool := (Text.trim line).toList.getLast? = some ';'

/-- Add a line to the pending statement. -/
def add (l : Loop) (line : String) : LineEffect × Loop :=
  let text := l.pending ++ line ++ "\n"
  if completes line then (.execute text, { l with pending := "" })
  else (.print "", { l with pending := text })

/-- What a line leads to, and the loop after it. -/
def take (l : Loop) (line : String) : LineEffect × Loop :=
  let text := Text.trim line
  if text = "" then (.print "", l)
  else if l.pending ≠ "" then l.add line
  else match text with
    | ".quit" | ".exit" | "\\q" => (.quit, l)
    | ".help" => (.print helpText, l)
    | ".json" => (.print "", { l with output := l.output.other })
    | ".clear" => (.print clearText, l)
    | text => if text.toList.head? = some '\\' then (.execute text, l) else l.add line

/-- What is carried out over several lines, in order, with the output format of each. -/
def executions : Loop → List String → List (String × OutputFormat)
  | _, [] => []
  | l, line :: rest =>
    match l.take line with
    | (.quit, _) => []
    | (.print _, l') => l'.executions rest
    | (.execute input, l') => (input, l.output) :: l'.executions rest

end Loop

end CatalogShell
