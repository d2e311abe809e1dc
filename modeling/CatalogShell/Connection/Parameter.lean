import CatalogShell.Connection.Basic
import CatalogShell.Text.Search

/-!
# Parameters of a connection

A connection string sets parameters by keyword. Hosts, addresses and ports are lists with commas
between the items, and add to those that are there; every other parameter replaces what was set
before. An unknown keyword or a value out of its range is refused.
-/

namespace CatalogShell.Connection

/-- A port; an empty text is the default port. -/
def port? (s : String) : Option UInt16 :=
  if s.isEmpty then some defaultPort else (Text.readNat? 65535 s.toList).map UInt16.ofNat

/-- A number of seconds; `some none` if it is not positive and so counts for nothing. -/
def seconds? (s : String) : Option (Option Nat) :=
  (Text.readInt? 64 s.toList).map fun n => if 0 < n then some n.toNat else none

/-- A list of items with commas between them, added one by one. -/
def addAll {α : Type} (read : String → Option α) (add : Connection → α → Connection)
    (c : Connection) (items : String) : Option Connection :=
  (Text.split ',' items).foldlM (fun c item => (read item).map (add c)) c

/-- The value of a choice. -/
def choice? {α : Type} (choices : List (String × α)) (s : String) : Option α := choices.lookup s

/-- Set a parameter. -/
def set? (c : Connection) (key value : String) : Option Connection :=
  match key with
  | "user" => some { c with user := some value }
  | "password" => some { c with password := some (Text.Utf8.encode value) }
  | "dbname" => some { c with database := some value }
  | "options" => some { c with options := some value }
  | "application_name" => some { c with applicationName := some value }
  | "sslmode" =>
    (choice? [("disable", .disable), ("prefer", .prefer), ("require", .require)] value).map
      fun m => { c with sslMode := m }
  | "sslnegotiation" =>
    (choice? [("postgres", .postgres), ("direct", .direct)] value).map
      fun n => { c with sslNegotiation := n }
  | "host" => addAll (some ∘ Host.ofText) addHost c value
  | "hostaddr" => addAll IpAddress.parse? addAddress c value
  | "port" => addAll port? addPort c value
  | "connect_timeout" =>
    (seconds? value).map fun t => { c with connectTimeout := t <|> c.connectTimeout }
  | "tcp_user_timeout" =>
    (seconds? value).map fun t => { c with tcpUserTimeout := t <|> c.tcpUserTimeout }
  | "keepalives" =>
    (Text.readNat? 0xFFFFFFFFFFFFFFFF value.toList).map fun n => { c with keepalives := n ≠ 0 }
  | "keepalives_idle" =>
    (seconds? value).map fun t => { c with keepalivesIdle := t.getD c.keepalivesIdle }
  | "keepalives_interval" =>
    (seconds? value).map fun t => { c with keepalivesInterval := t <|> c.keepalivesInterval }
  | "keepalives_retries" =>
    (Text.readNat? 0xFFFFFFFF value.toList).map fun n => { c with keepalivesRetries := some n }
  | "target_session_attrs" =>
    (choice? [("any", .any), ("read-write", .readWrite), ("read-only", .readOnly)] value).map
      fun t => { c with targetSession := t }
  | "channel_binding" =>
    (choice? [("disable", .disable), ("prefer", .prefer), ("require", .require)] value).map
      fun b => { c with channelBinding := b }
  | "load_balance_hosts" =>
    (choice? [("disable", .listed), ("random", .random)] value).map
      fun o => { c with hostOrder := o }
  | _ => none

end CatalogShell.Connection
