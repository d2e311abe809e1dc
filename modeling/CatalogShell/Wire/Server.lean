import CatalogShell.Connection.Basic
import CatalogShell.Session
import CatalogShell.Text.Search
import CatalogShell.Wire.Cell

/-!
# Servers that follow a list

A server that answers statements from a list, one entry for each statement that is prepared, and
notes what it was sent. It stands in for a real one where the answers have to be known: between
it and a query are the same steps of preparing, binding and reading cells.

* `Server.answer`: what becomes of a query.
* `Listener.accept`: whether a connection reaches a server that listens at a socket.
-/

namespace CatalogShell.Wire

/-- How a server answers a statement. -/
structure Served where
  /-- The types of the parameters. -/
  paramTypes : List Oid := []
  /-- The names and types of the columns. -/
  columns : List (String × Oid) := []
  rows : List (List (Option Bytes)) := []
  failsToPrepare : Bool := false
  failsToExecute : Bool := false
  /-- The server goes away when parameters are bound. -/
  hangsUp : Bool := false

/-- A statement that was prepared, with the parameters that were bound to it, if any were. -/
structure Received where
  sql : String
  bound : Option (List Sent) := none

/-- The state of a server. -/
structure Server where
  replies : List Served := []
  received : List Received := []
  closed : Bool := false

/-- The bytes of parameters, or the reason why they cannot be sent. Their number is looked at
first. -/
def bindAll (types : List Oid) (params : List Value) : Except String (List Sent) :=
  if params.length ≠ types.length then
    .error ("expected " ++ types.length.repr ++ " parameters but got " ++ params.length.repr)
  else
    (types.zip params).zipIdx.mapM fun ((t, v), k) =>
      match v.encode? t with
      | some sent => .ok sent
      | none => .error ("error serializing parameter " ++ k.repr)

/-- The values of a row, or the reason why one of them cannot be read. -/
def readRow (columns : List (String × Oid)) (cells : List (Option Bytes)) :
    Except String Row := do
  let values ← columns.zipIdx.mapM fun ((_, t), k) =>
    match decodeCell? t (cells[k]?.getD none) with
    | some v => .ok v
    | none => .error ("error deserializing column " ++ k.repr)
  return ⟨values⟩

namespace Served

/-- The rows of an answer, or the reason why one cannot be read. -/
def readRows (s : Served) : Except String ResultSet := do
  let rows ← s.rows.mapM (readRow s.columns)
  return ⟨s.columns.map Prod.fst, rows⟩

/-- What becomes of a statement, with what was bound to it. -/
def execute (s : Served) (params : List Value) :
    Except String ResultSet × Option (List Sent) :=
  if s.failsToPrepare then (.error "db error", none)
  else match bindAll s.paramTypes params with
    | .error reason => (.error reason, none)
    | .ok bound =>
      if s.hangsUp then (.error "connection closed", some bound)
      else if s.failsToExecute then (.error "db error", some bound)
      else (s.readRows, some bound)

end Served

namespace Server

/-- What becomes of a statement. One with a NUL character cannot be sent. -/
def execute (s : Server) (sql : String) (params : List Value) :
    Except String ResultSet × Server :=
  if sql.toList.contains '\x00' then (.error "error encoding message to server", s)
  else if s.closed then (.error "connection closed", s)
  else
    let served := s.replies.head?.getD {}
    let (result, bound) := served.execute params
    (result, {
      replies := s.replies.tail
      received := s.received ++ [⟨sql, bound⟩]
      closed := served.hangsUp && bound.isSome })

/-- What becomes of a query. -/
def answer (s : Server) (q : Query) : Answer × Server :=
  let (result, s) := s.execute q.sql q.params
  (result.mapError (Failure.queryFailed q.label), s)

/-- The database that a server offers. Requests to stop a statement are accepted and come too
late. -/
def database : Database Server where
  reply q s := let (answer, s) := s.answer q; ({ answer }, s)
  stop s := (.ok (), s)

end Server

/-- Why a connection was not made. -/
inductive Refusal where
  | invalidConfiguration
  | unreachable
  | notEncrypted
  | rejected
deriving DecidableEq, Repr

/-- The text of a refusal. -/
def Refusal.message : Refusal → String
  | .invalidConfiguration => "invalid configuration"
  | .unreachable => "error connecting to server"
  | .notEncrypted => "error performing TLS handshake"
  | .rejected => "db error"

/-- The failure of a connection. -/
def Refusal.failure (r : Refusal) : Failure := .queryFailed "connect" r.message

/-- A server that listens at a socket in a directory and does not encrypt. -/
structure Listener where
  directory : Bytes
  port : UInt16 := defaultPort
  /-- Nobody may log in. -/
  rejects : Bool := false

/-- The parts of a path that lead somewhere. -/
def pathParts (path : Bytes) : List Bytes :=
  (Text.splitAt 0x2F path).filter fun part => part ≠ [] ∧ part ≠ [0x2E]

/-- A server that a connection may be made to: an address goes before a host. -/
structure Target where
  address : Option IpAddress
  host : Option Host
  port : UInt16

/-- The servers that a connection tries in order. There must be as many addresses as hosts where
there are both, and one port for all of them or one for each. -/
def targets (c : Connection) : Except Refusal (List Target) :=
  let count := max c.hosts.length c.addresses.length
  if count = 0 then .error .invalidConfiguration
  else if !c.hosts.isEmpty && !c.addresses.isEmpty && c.hosts.length ≠ c.addresses.length then
    .error .invalidConfiguration
  else if 1 < c.ports.length && c.ports.length ≠ count then .error .invalidConfiguration
  else .ok ((List.range count).map fun k =>
    ⟨c.addresses[k]?, c.hosts[k]?, (c.ports[k]? <|> c.ports.head?).getD defaultPort⟩)

namespace Listener

/-- Whether a connection is made at one target. The socket is the only way in. -/
def acceptAt (l : Listener) (c : Connection) (t : Target) : Except Refusal Unit :=
  match t.address, t.host with
  | none, some (.unix directory) =>
    if pathParts directory ≠ pathParts l.directory ∨ t.port ≠ l.port then .error .unreachable
    else if c.sslMode = .require then .error .notEncrypted
    else if l.rejects then .error .rejected
    else if c.channelBinding = .require ∨ c.targetSession ≠ .any then .error .unreachable
    else .ok ()
  | _, _ => .error .unreachable

/-- Whether a connection is made at any target; the last refusal counts. -/
def accept (l : Listener) (c : Connection) : Except Refusal Unit := do
  let ts ← targets c
  ts.foldl (fun result t =>
    match result with
    | .ok () => .ok ()
    | .error _ => l.acceptAt c t) (.error .invalidConfiguration)

end Listener

end CatalogShell.Wire
