import CatalogShell.Command.Result
import CatalogShell.Inquiry
import CatalogShell.Pattern.Basic
import CatalogShell.Text.LetterCase

/-!
# The registry of commands

Commands are found by their verb or one of their aliases. A command registered under a key that
is taken replaces the one before, and the key keeps its place in the order of keys. Registrations
are numbered, so that two of the same content are still told apart.

* `Registry.register`: register a command under its verb and its aliases.
* `Registry.lookup?`: the command for a verb. Commands that ignore case are kept under
  lower-case keys, and are also found by a verb that becomes their key in lower case.
* `Registry.registrations`: every registration that still has a key, once.
-/

namespace CatalogShell

/-- What a command does with its argument text, plainly or verbosely (`true`). -/
abbrev Handler := PatternMode → String → Bool → Lookup CommandResult

/-- A command as it is registered. -/
structure Command where
  verb : String
  aliases : List String := []
  caseSensitive : Bool := true
  /-- How to call it. -/
  usage : String
  description : String
  handler : Handler

/-- The keys of a command: its verb and its aliases. -/
def Command.keys (c : Command) : List String :=
  (c.verb :: c.aliases).map fun key => if c.caseSensitive then key else Text.lower key

/-- A command with the number of its registration. -/
structure Registration where
  serial : Nat
  command : Command

/-- Commands by key, in the order in which keys were first taken. -/
structure Registry where
  entries : List (String × Registration) := []
  /-- The number of registrations so far. -/
  count : Nat := 0

namespace Registry

/-- Put a registration under a key: in the place of the key, or at the end if it is new. -/
def put (key : String) (r : Registration) :
    List (String × Registration) → List (String × Registration)
  | [] => [(key, r)]
  | entry :: rest => if entry.1 = key then (key, r) :: rest else entry :: put key r rest

/-- Register a command under all its keys. -/
def register (g : Registry) (c : Command) : Registry where
  entries := c.keys.foldl (fun entries key => put key ⟨g.count, c⟩ entries) g.entries
  count := g.count + 1

/-- Register commands in order. -/
def registerAll (g : Registry) (commands : List Command) : Registry :=
  commands.foldl register g

/-- The registration under a key. -/
def find? (g : Registry) (key : String) : Option Registration :=
  (g.entries.find? (·.1 = key)).map Prod.snd

/-- The registration for a verb. -/
def lookup? (g : Registry) (verb : String) : Option Registration :=
  match g.find? verb with
  | some r => some r
  | none => (g.find? (Text.lower verb)).filter (!·.command.caseSensitive)

/-- Registrations without repetition, each in the place of its first occurrence. -/
def distinct : List Registration → List Registration
  | [] => []
  | r :: rs => r :: (distinct rs).filter (·.serial ≠ r.serial)

/-- The registrations that have a key, in the order of their first keys. -/
def registrations (g : Registry) : List Registration := distinct (g.entries.map Prod.snd)

/-- The commands that have a key, in the order of their first keys. -/
def commands (g : Registry) : List Command := g.registrations.map Registration.command

/-- The number of keys. -/
def size (g : Registry) : Nat := g.entries.length

def isEmpty (g : Registry) : Bool := g.entries.isEmpty

end Registry

end CatalogShell
