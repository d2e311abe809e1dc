import CatalogShell.Connection.Address
import CatalogShell.Text.Utf8

/-!
# Connections

What a client needs to know to reach a server: hosts with their ports, who logs in, and how. A
`Connection` says only what has been asked for; a host's port, the role and the database have
their defaults elsewhere.
-/

namespace CatalogShell

/-- Where a server listens: at a name in the network, or at a socket in a directory. -/
inductive Host where
  | tcp (name : String)
  | unix (directory : Bytes)
deriving DecidableEq, Repr

/-- A host given as text: a directory starts with a slash. -/
def Host.ofText (s : String) : Host :=
  if s.toList.head? = some '/' then .unix (Text.Utf8.encode s) else .tcp s

/-- The text of a host. -/
def Host.text : Host → String
  | .tcp name => name
  | .unix directory => Text.Utf8.decodeLossy directory

/-- Whether the connection is encrypted. -/
inductive SslMode where
  | disable
  | prefer
  | require
deriving DecidableEq, Repr

/-- Whether encryption is negotiated by the database's protocol, or starts at once. -/
inductive SslNegotiation where
  | postgres
  | direct
deriving DecidableEq, Repr

/-- Which sessions will do. -/
inductive TargetSession where
  | any
  | readWrite
  | readOnly
deriving DecidableEq, Repr

/-- Whether the login is bound to the encrypted channel. -/
inductive ChannelBinding where
  | disable
  | prefer
  | require
deriving DecidableEq, Repr

/-- The order in which hosts are tried. -/
inductive HostOrder where
  | listed
  | random
deriving DecidableEq, Repr

/-- What has been asked for in a connection. Times are in seconds. -/
structure Connection where
  hosts : List Host := []
  addresses : List IpAddress := []
  ports : List UInt16 := []
  user : Option String := none
  password : Option Bytes := none
  database : Option String := none
  options : Option String := none
  applicationName : Option String := none
  sslMode : SslMode := .prefer
  sslNegotiation : SslNegotiation := .postgres
  connectTimeout : Option Nat := none
  tcpUserTimeout : Option Nat := none
  keepalives : Bool := true
  keepalivesIdle : Nat := 7200
  keepalivesInterval : Option Nat := none
  keepalivesRetries : Option Nat := none
  targetSession : TargetSession := .any
  channelBinding : ChannelBinding := .prefer
  hostOrder : HostOrder := .listed
deriving DecidableEq

/-- The port at which servers listen unless told otherwise. -/
def defaultPort : UInt16 := 5432

namespace Connection

/-- Add a host. -/
def addHost (c : Connection) (h : Host) : Connection := { c with hosts := c.hosts ++ [h] }

/-- Add a port. -/
def addPort (c : Connection) (p : UInt16) : Connection := { c with ports := c.ports ++ [p] }

/-- Add an address. -/
def addAddress (c : Connection) (a : IpAddress) : Connection :=
  { c with addresses := c.addresses ++ [a] }

end Connection

end CatalogShell
