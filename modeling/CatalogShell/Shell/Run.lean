import CatalogShell.Command.Builtin
import CatalogShell.Command.Dispatch
import CatalogShell.Render.Result
import CatalogShell.Session
import CatalogShell.Settings.Basic
import CatalogShell.Shell.Loop
import CatalogShell.Text.Search

/-!
# Running the shell

What is carried out is a meta-command or a statement in the database's own language. Each has a
token of its own, so that one that was cancelled does not stop the next. Results go to the
output, failures to the error output.
-/

namespace CatalogShell

/-- What has been printed. -/
structure Transcript where
  stdout : String := ""
  stderr : String := ""
deriving DecidableEq, Repr

namespace Transcript

/-- Print to the output. -/
def print (t : Transcript) (text : String) : Transcript := { t with stdout := t.stdout ++ text }

/-- Print what came of something that was carried out. -/
def report (t : Transcript) (format : OutputFormat) : Except Failure CommandResult → Transcript
  | .ok r => t.print (r.render format)
  | .error e => { t with stderr := t.stderr ++ "Error: " ++ e.message ++ "\n" }

end Transcript

namespace Shell

/-- A statement as it is sent: without the blanks around it and the semicolons at its end. -/
def statement (input : String) : String :=
  String.ofList ((Text.trimChars input.toList).reverse.dropWhile (· = ';')).reverse

/-- The query of a statement. -/
def statementQuery (input : String) : Query := .ofText "user.sql" (statement input)

/-- What carrying out an input asks of the database. -/
def inquiry (g : Registry) (mode : PatternMode) (input : String) : Lookup CommandResult := do
  match ← g.dispatch mode input with
  | .handled r => return r
  | .notCommand => return .rows (← Lookup.ask (statementQuery input))

/-- What does not change while the shell runs. -/
structure Setup (σ : Type) where
  registry : Registry := .builtin
  database : Database σ
  mode : PatternMode
  limit : Option Nat

/-- What changes: the loop, the database, and what has been printed. -/
structure State (σ : Type) where
  loop : Loop
  database : σ
  transcript : Transcript := {}

variable {σ : Type}

/-- Carry out an input, and print what came of it. -/
def execute (u : Setup σ) (input : String) (s : State σ) : State σ :=
  let outcome := Session.run u.database u.limit (inquiry u.registry u.mode input).run
    { database := s.database }
  { s with
    database := outcome.session.database
    transcript := s.transcript.report s.loop.output outcome.result }

/-- Take one line, after its prompt. The flag tells whether there may be another one. -/
def advance (u : Setup σ) (s : State σ) (line : String) : Bool × State σ :=
  let s := { s with transcript := s.transcript.print s.loop.prompt }
  match s.loop.take line with
  | (.quit, _) => (false, s)
  | (.print text, l) => (true, { s with loop := l, transcript := s.transcript.print text })
  | (.execute input, l) => (true, { execute u input s with loop := l })

/-- Take lines until one quits or there are no more. -/
def runLines (u : Setup σ) : State σ → List String → State σ
  | s, [] => { s with transcript := s.transcript.print s.loop.prompt }
  | s, line :: rest =>
    match advance u s line with
    | (false, s) => s
    | (true, s) => runLines u s rest

/-- The name and version of the shell. -/
def title : String := "pgmeta 0.1.0"

/-- The greeting, which names the server. -/
def banner (s : Settings) : String :=
  title ++ " connected to " ++ s.host ++ ":" ++ s.port.toNat.repr ++
    "\n Type '\\?' for meta-commands, '.help' for help, '\\q' to exit\n\n"

/-- A line as it is taken: a backspace takes back the character before it, if there is one. -/
def takeBack (line : List Char) : List Char :=
  (line.foldl (fun done c => if c = '\x08' then done.tail else c :: done) []).reverse

/-- The lines of an input. -/
def linesOf (input : String) : List String :=
  (Text.lines input.toList).map fun line => String.ofList (takeBack line)

/-- A whole run over an input, and the database after it. -/
def run (db : Database σ) (settings : Settings) (d : σ) (input : String) : Transcript × σ :=
  let u : Setup σ :=
    { database := db, mode := settings.patternMode, limit := settings.statementTimeout }
  let start : State σ := {
    loop := { output := settings.output }, database := d
    transcript := ({} : Transcript).print (banner settings) }
  let last := runLines u start (linesOf input)
  (last.transcript.print "Goodbye!\n", last.database)

end Shell

end CatalogShell
