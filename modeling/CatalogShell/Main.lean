import CatalogShell.Shell.Program
import CatalogShell.Wire.Server

/-!
# The command line

Reads the settings file and the input, runs the program, and prints what it leaves behind. There
is no transport to a server in this build: every connection is refused, and `Program.run` takes
another way to connect where there is one.
-/

namespace CatalogShell

/-- The settings file at a path. -/
def readSettingsFile (path : String) : IO Settings.File := do
  try
    return .content (← IO.FS.readBinFile path).toList
  catch _ => return .missing

/-- Without a transport no connection is made. -/
def connectNowhere (c : Connection) : Except Failure Wire.Server := do
  let _ ← (Wire.targets c).mapError Wire.Refusal.failure
  throw Wire.Refusal.unreachable.failure

/-- Print what has been printed by the shell. -/
def printTranscript (t : Transcript) : IO Unit := do
  IO.print t.stdout
  IO.eprint t.stderr

end CatalogShell

open CatalogShell in
/-- Runs the program on its arguments and its input. -/
def main (args : List String) : IO UInt32 := do
  let file ← match Arguments.read args with
    | .ok a => a.file.mapM readSettingsFile
    | .error _ => pure none
  let files (_ : String) : Settings.File := file.getD .missing
  match Program.start files connectNowhere args with
  | .error e =>
    printTranscript e.transcript
    return e.code
  | .ok (s, server) =>
    let input ← (← IO.getStdin).readToEnd
    let (transcript, _) := Shell.run Wire.Server.database s server input
    printTranscript transcript
    return 0
