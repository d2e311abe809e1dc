import CatalogShell.Inquiry

/-!
# Sessions

Running an inquiry against a database, with a token that cancels it and a limit on the time of
each query.

A query is not sent at all once the token is cancelled. A query that has been sent ends with the
database's answer, or is given up: because the token was cancelled while it ran, or because it
took longer than the limit. Whenever a query that was sent ends as cancelled or timed out, also
by the database's own account, the server is asked to stop it. Whether that request succeeds
changes nothing.

* `Database`: what answers queries, with a state of its own.
* `Session.send`: one query. `Session.run`: a whole inquiry.
* `Outcome.calls`: what was sent to the database, in order.
-/

namespace CatalogShell

/-- When a database answers. -/
inductive Arrival where
  | atOnce
  | after (millis : Nat)
  | never
deriving DecidableEq, Repr, Inhabited

/-- What a database does with a query. -/
structure Reply where
  answer : Answer
  arrival : Arrival := .atOnce
  /-- The token is cancelled while the query runs. -/
  cancelsToken : Bool := false

/-- A database answers queries and takes requests to stop the statement that runs. -/
structure Database (σ : Type) where
  reply : Query → σ → Reply × σ
  stop : σ → Except Failure Unit × σ

/-- What is sent to a database. -/
inductive Call where
  | query (q : Query)
  | stop
deriving DecidableEq

/-- The state of a database and of the token. -/
structure Session (σ : Type) where
  database : σ
  cancelled : Bool := false

/-- What a run gives: its result, what it sent, and the session after it. -/
structure Outcome (σ α : Type) where
  result : α
  calls : List Call
  session : Session σ

namespace Reply

/-- The query waits without any limit, until the token is cancelled. -/
def waitsForever (r : Reply) (limit : Option Nat) : Bool :=
  r.arrival == .never && limit.isNone

/-- How a query that has been sent ends. An answer that is there at once counts even if the
token was cancelled meanwhile or no time is left; otherwise the token goes before the limit. -/
def settle (r : Reply) (limit : Option Nat) : Answer :=
  match r.arrival with
  | .atOnce => r.answer
  | .after millis =>
    if r.cancelsToken then .error .cancelled
    else match limit with
      | some n => if millis ≤ n then r.answer else .error (.timedOut n)
      | none => r.answer
  | .never =>
    if r.cancelsToken then .error .cancelled
    else match limit with
      | some n => .error (.timedOut n)
      | none => .error .cancelled

end Reply

/-- The query was sent and then given up. -/
def Answer.isAbandoned : Answer → Bool
  | .error e => e.isAbandoned
  | .ok _ => false

namespace Session

variable {σ α : Type}

/-- Send one query. -/
def send (db : Database σ) (limit : Option Nat) (q : Query) (s : Session σ) :
    Outcome σ Answer :=
  if s.cancelled then ⟨.error .cancelled, [], s⟩
  else
    let (reply, database) := db.reply q s.database
    let answer := reply.settle limit
    let cancelled := reply.cancelsToken || reply.waitsForever limit
    if answer.isAbandoned then
      ⟨answer, [.query q, .stop], ⟨(db.stop database).2, cancelled⟩⟩
    else ⟨answer, [.query q], ⟨database, cancelled⟩⟩

/-- Run a whole inquiry. -/
def run (db : Database σ) (limit : Option Nat) : Inquiry α → Session σ → Outcome σ α
  | .done a, s => ⟨a, [], s⟩
  | .ask q resume, s =>
    let first := s.send db limit q
    let rest := run db limit (resume first.result) first.session
    ⟨rest.result, first.calls ++ rest.calls, rest.session⟩

end Session

end CatalogShell
