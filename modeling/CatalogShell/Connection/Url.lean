import CatalogShell.Connection.Parameter
import CatalogShell.Text.Percent

/-!
# Connection strings as URLs

`user:password@host:port,host:port/database?key=value&key=value`, all parts of which are
optional and percent-encoded. The first at sign ends the credentials, wherever it stands. Every
part is UTF-8 text but for the password, whose bytes are kept as they are.
-/

namespace CatalogShell.Connection.Url

/-- The role and the password before the first at sign, if there is one. -/
def credentials (c : Connection) (cs : List Char) : Option (Connection × List Char) :=
  match Text.cutAt '@' cs with
  | (_, none) => some (c, cs)
  | (before, some rest) => do
    let (user, password) := Text.cutAt ':' before
    let user ← Text.Percent.text? user
    return ({ c with user := some user, password := password.map Text.Percent.bytes }, rest)

/-- A host, which is a directory if it starts with a slash. -/
def host? (cs : List Char) : Option Host :=
  let bytes := Text.Percent.bytes cs
  if bytes.head? = some 0x2F then some (.unix bytes)
  else (Text.Utf8.decode? bytes).map Host.tcp

/-- A host and its port, in their written form. A host in brackets may hold colons. -/
def splitPort (cs : List Char) : Option (List Char × Option (List Char)) :=
  match cs with
  | '[' :: cs =>
    match Text.cutAt ']' cs with
    | (host, some []) => some (host, none)
    | (host, some (':' :: port)) => some (host, some port)
    | _ => none
  | cs => some (Text.cutAt ':' cs)

/-- Add a host with its port, or with the default port. -/
def addServer (c : Connection) (cs : List Char) : Option Connection := do
  let (host, port) ← splitPort cs
  let c := c.addHost (← host? host)
  match port with
  | none => return c.addPort defaultPort
  | some port => c.set? "port" (← Text.Percent.text? port)

/-- The hosts, up to the path or the parameters. -/
def servers (c : Connection) (cs : List Char) : Option (Connection × List Char) :=
  let ends (c : Char) : Bool := c = '/' || c = '?'
  let hosts := cs.takeWhile (!ends ·)
  let rest := cs.dropWhile (!ends ·)
  if hosts.isEmpty then some (c, rest)
  else ((Text.splitAt ',' hosts).foldlM addServer c).map fun c => (c, rest)

/-- The database after a slash, and the parameters after a question mark. -/
def path (c : Connection) (cs : List Char) : Option (Connection × List Char) :=
  match cs with
  | '/' :: cs => do
    let (name, parameters) := Text.cutAt '?' cs
    let c ← if name.isEmpty then some c
      else (Text.Percent.text? name).map fun s => { c with database := some s }
    return (c, parameters.getD [])
  | '?' :: cs => some (c, cs)
  | _ => some (c, [])

/-- Set a parameter from its written value. A host is one host, without a list. -/
def setParameter (c : Connection) (key : String) (value : List Char) : Option Connection :=
  if key = "host" then (host? value).map c.addHost
  else (Text.Percent.text? value).bind (c.set? key)

/-- The parameters, from left to right. A key ends at the first equals sign. -/
def parameters (c : Connection) (cs : List Char) : Option Connection :=
  if cs.isEmpty then some c
  else
    match _h : Text.cutAt '=' cs with
    | (_, none) => none
    | (key, some after) =>
      match _hv : Text.cutAt '&' after with
      | (value, rest) =>
        match (Text.Percent.text? key).bind fun key => setParameter c key value with
        | some c => parameters c (rest.getD [])
        | none => none
termination_by cs.length
decreasing_by
  have h1 := Text.cutAt_length_lt _h
  cases rest with
  | none => simp only [Option.getD_none, List.length_nil]; omega
  | some rest => have h2 := Text.cutAt_length_lt _hv; simp only [Option.getD_some]; omega

/-- The connection that a URL asks for, after its scheme. -/
def parse? (cs : List Char) : Option Connection := do
  let (c, rest) ← credentials {} cs
  let (c, rest) ← servers c rest
  let (c, rest) ← path c rest
  parameters c rest

end CatalogShell.Connection.Url
