import CatalogShell.Session

/-!
# Scripted databases

A database that answers from a list. A query takes the first entry that fits its label and its
first parameter and is not used up; without such an entry the answer is empty.
-/

namespace CatalogShell

/-- An entry of a script. -/
structure ScriptEntry where
  label : String
  /-- The object identifier that the first parameter must be, if any will not do. -/
  oid : Option Oid := none
  /-- How often the entry may still be used; `none`: without limit. -/
  uses : Option Nat := none
  reply : Reply

/-- A list of answers. -/
structure Script where
  entries : List ScriptEntry := []
  /-- Requests to stop a statement fail. -/
  stopFails : Bool := false

namespace ScriptEntry

/-- The entry can answer the query. -/
def fits (e : ScriptEntry) (q : Query) : Bool :=
  e.label == q.label && e.uses != some 0 &&
    e.oid.all fun o => (q.param? 0).bind Value.oid? == some o

/-- The entry after one use. -/
def spend (e : ScriptEntry) : ScriptEntry := { e with uses := e.uses.map (· - 1) }

end ScriptEntry

namespace Script

/-- The first entry that fits, and the entries after its use. -/
def take (q : Query) : List ScriptEntry → Option Reply × List ScriptEntry
  | [] => (none, [])
  | e :: es =>
    if e.fits q then (some e.reply, e.spend :: es)
    else let (reply, es) := take q es; (reply, e :: es)

/-- A database whose state is the script itself. -/
def database : Database Script where
  reply q s :=
    let (reply, entries) := take q s.entries
    (reply.getD { answer := .ok {} }, { s with entries })
  stop s :=
    (if s.stopFails then .error (.queryFailed "cancel" "cancel request failed") else .ok (), s)

end Script

end CatalogShell
