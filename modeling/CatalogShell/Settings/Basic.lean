import CatalogShell.Connection.Reader
import CatalogShell.Pattern.Basic
import CatalogShell.Render.Format

/-!
# Settings

What the shell is told about its server and its output. Settings start from defaults; a file
and a connection string replace what they name.

* `Settings.withUrl`: the settings with what a connection string names.
* `Settings.toConnection`: what the driver is asked for. It starts from the connection string, so
  that parameters without a setting of their own are kept, and hosts and ports that the string
  lists are used as they are.
-/

namespace CatalogShell

/-- The settings of the shell. -/
structure Settings where
  host : String := "localhost"
  port : UInt16 := defaultPort
  user : Option String := none
  password : Option String := none
  database : Option String := none
  /-- The limit on the time of each query, in milliseconds. -/
  statementTimeout : Option Nat := none
  /-- Patterns with an open quote are refused. -/
  strictPatterns : Bool := false
  output : OutputFormat := .table
  /-- What the last connection string asked for. -/
  connection : Option Connection := none
deriving DecidableEq

namespace Settings

/-- The name by which the shell introduces itself to the server. -/
def applicationName : String := "pgmeta"

/-- The settings with what a connection names. -/
def overlay (s : Settings) (c : Connection) : Settings :=
  { s with
    host := (c.hosts.head?.map Host.text).getD s.host
    port := c.ports.head?.getD s.port
    user := c.user <|> s.user
    password := c.password.map Text.Utf8.decodeLossy <|> s.password
    database := c.database <|> s.database
    connection := some c }

/-- The settings with what a connection string names. -/
def withUrl (s : Settings) (url : String) : Except Failure Settings :=
  match Connection.parse? url with
  | some c => .ok (s.overlay c)
  | none => .error (.badSettings "Invalid connection string: invalid connection string")

/-- The connection that the driver is asked for. -/
def toConnection (s : Settings) : Connection :=
  let c := s.connection.getD {}
  { c with
    hosts := if c.hosts.isEmpty then [.ofText s.host] else c.hosts
    ports := if c.ports.isEmpty then [s.port] else c.ports
    applicationName := c.applicationName <|> some applicationName
    user := s.user <|> c.user
    password := s.password.map Text.Utf8.encode <|> c.password
    database := s.database <|> c.database }

/-- What becomes of patterns with an open quote. -/
def patternMode (s : Settings) : PatternMode := if s.strictPatterns then .strict else .lenient

end Settings

end CatalogShell
