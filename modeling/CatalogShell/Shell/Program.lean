import CatalogShell.Shell.Arguments
import CatalogShell.Shell.Run

/-!
# The program

The program reads its arguments and settings, connects, and runs the shell over its input. A
failure before the shell runs ends the program with a message and the exit code 1.
-/

namespace CatalogShell

/-- What the program leaves behind. -/
structure Exit where
  transcript : Transcript := {}
  code : UInt32 := 0
deriving DecidableEq, Repr

/-- The end of a program that cannot run. -/
def Exit.fatal (text : String) : Exit := ⟨{ stderr := "Error: " ++ text ++ "\n" }, 1⟩

namespace Program

variable {σ : Type}

/-- What is there before the shell runs: settings and a connected database. -/
def start (files : String → Settings.File) (connect : Connection → Except Failure σ)
    (args : List String) : Except Exit (Settings × σ) := do
  let a ← (Arguments.read args).mapError fun r => .fatal r.message
  let s ← (a.settings files).mapError fun _ => .fatal "failed to load configuration"
  let d ← (connect s.toConnection).mapError fun _ =>
    .fatal ("failed to connect to " ++ s.host ++ ":" ++ s.port.toNat.repr)
  return (s, d)

/-- The whole program, and the database after it if one was reached. -/
def run (files : String → Settings.File) (db : Database σ)
    (connect : Connection → Except Failure σ) (args : List String) (input : String) :
    Exit × Option σ :=
  match start files connect args with
  | .error e => (e, none)
  | .ok (s, d) =>
    let (transcript, d) := Shell.run db s d input
    ({ transcript }, some d)

end Program

end CatalogShell
