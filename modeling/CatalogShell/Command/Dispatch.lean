import CatalogShell.Command.Line
import CatalogShell.Command.Registry

/-!
# Dispatching lines

A line is either no meta-command at all, which is not a failure, or the command with its verb
handles it. A verb without a command is a failure, and so is a failure of the command, which
keeps its cause.
-/

namespace CatalogShell

/-- What became of a line. -/
inductive Dispatch where
  | notCommand
  | handled (result : CommandResult)
deriving DecidableEq

/-- Run a line if it is a meta-command. -/
def Registry.dispatch (g : Registry) (mode : PatternMode) (input : String) : Lookup Dispatch :=
  match CommandLine.parse? input with
  | none => pure .notCommand
  | some line =>
    match g.lookup? line.verb with
    | none => throw (.unknownCommand line.verb)
    | some r =>
      ExceptT.adapt (Failure.commandFailed line.verb)
        (Dispatch.handled <$> r.command.handler mode line.args line.verbose)

end CatalogShell
