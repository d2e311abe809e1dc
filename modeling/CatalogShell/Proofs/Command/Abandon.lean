import CatalogShell.Command.Dispatch
import CatalogShell.Proofs.Command.Registered
import CatalogShell.Proofs.Describe.Plan
import CatalogShell.Proofs.Session.Turn

/-!
# Commands whose queries are given up

Every built-in command gives up with its queries: it fails as soon as one of them is cancelled
or timed out, and asks nothing more. A dispatch keeps the cause.

`dispatches_obey_stopLaw` draws the conclusions for any series of lines that share a session.
-/

namespace CatalogShell

open Lookup (GivesUp)

namespace Handler

theorem givesUp_listing (query : Pattern → Bool → Query) (mode : PatternMode) (args : String)
    (verbose : Bool) : GivesUp (listing query mode args verbose).run :=
  .bind (.lift _) fun _ => .bind (.lookupAsk _) fun _ => .pure _

theorem givesUp_tablespaces (mode : PatternMode) (args : String) (verbose : Bool) :
    GivesUp (tablespaces mode args verbose).run :=
  .bind (.lift _) fun _ => .bind (.askFirst _) fun _ => .bind (.lift _) fun _ =>
    .bind (.lookupAsk _) fun _ => .pure _

theorem givesUp_extensionOfRow (label : String) (row : Row) :
    GivesUp (extensionOfRow label row).run :=
  .bind (.lift _) fun _ => .bind (.lift _) fun _ => .bind (.lookupAsk _) fun _ =>
    .bind (.lift _) fun _ => .pure _

theorem givesUp_extensions (mode : PatternMode) (args : String) (verbose : Bool) :
    GivesUp (extensions mode args verbose).run := by
  unfold extensions
  split
  · exact .bind (.lookupAsk _) fun _ => .bind (.mapM (givesUp_extensionOfRow _) _) fun _ => .pure _
  · exact givesUp_listing _ _ _ _

theorem givesUp_functionDefinition (mode : PatternMode) (args : String) (verbose : Bool) :
    GivesUp (functionDefinition mode args verbose).run := by
  refine .bind (.askFirst _) fun _ => .bind (.lift _) fun _ => .bind (.lookupAsk _) fun answer => ?_
  cases verbose with
  | false => exact .pure _
  | true =>
    cases answer.first? with
    | some row => exact .bind (.lift _) fun _ => .pure _
    | none => exact .pure _

theorem givesUp_required (text : String) (p : Pattern) (kinds : List RelationKind) :
    GivesUp (Resolve.required text p kinds).run := by
  refine .bind (.bind (.lookupAsk _) fun _ => .lift _) fun objects => ?_
  cases objects with
  | nil => exact .throw _
  | cons o objects => exact .pure _

theorem givesUp_describe (mode : PatternMode) (args : String) (verbose : Bool) :
    GivesUp (describe mode args verbose).run := by
  refine .bind (.lift _) fun pattern => ?_
  by_cases h : args = ""
  · rw [if_pos h]
    exact .bind (.lookupAsk _) fun _ => .pure _
  · rw [if_neg h]
    exact .bind (givesUp_required _ _ _) fun _ =>
      .bind (.mapM (ObjectRef.givesUp_describe verbose) _) fun _ => .pure _

theorem givesUp_help (entries : List (String × String)) (mode : PatternMode) (args : String)
    (verbose : Bool) : GivesUp (help entries mode args verbose).run :=
  .pure _

end Handler

namespace Command

/-- The command gives up with its queries. -/
def GivesUp (c : Command) : Prop :=
  ∀ mode args verbose, Lookup.GivesUp (c.handler mode args verbose).run

theorem givesUp_of_mem_builtin : ∀ c ∈ builtin, c.GivesUp := by
  have hlisting (query : Pattern → Bool → Query) := Handler.givesUp_listing query
  simp only [builtin, List.forall_mem_cons]
  exact ⟨hlisting _, hlisting _, hlisting _, hlisting _, hlisting _, Handler.givesUp_tablespaces,
    hlisting _, hlisting _, hlisting _, hlisting _, hlisting _, hlisting _, hlisting _, hlisting _,
    Handler.givesUp_extensions, hlisting _, Handler.givesUp_functionDefinition,
    Handler.givesUp_describe, Handler.givesUp_describe, by simp⟩

end Command

namespace Registry

theorem givesUp_builtin : builtin.Has Command.GivesUp :=
  has_builtin Command.givesUp_of_mem_builtin fun _ => Handler.givesUp_help _

/-- A dispatch of a command that gives up with its queries does so too. -/
theorem givesUp_dispatch {g : Registry} (h : g.Has Command.GivesUp) (mode : PatternMode)
    (input : String) : GivesUp (g.dispatch mode input).run := by
  unfold dispatch
  split
  · exact .pure _
  · split
    · exact .throw _
    · next r hr => exact .adapt (fun _ => rfl) (.map _ (h.lookup? hr _ _ _))

/-- For any lines that are dispatched in one session, on any database and with any limit: in the
log of each dispatch a request to stop a statement is there exactly when a query that was sent was
given up. There is at most one; it stands last, after that query, and the dispatch fails for the
same cause. Nothing is sent once the token is cancelled, neither by that dispatch nor by a later
one. Whether requests to stop a statement succeed changes nothing. -/
theorem dispatches_obey_stopLaw {σ : Type} (db : Database σ) (limit : Option Nat)
    (mode : PatternMode) (lines : List String) (s : Session σ) :
    let inquiries := lines.map fun line => (builtin.dispatch mode line).run
    let turns := s.turns db limit inquiries
    (∀ t ∈ turns, t.StopLaw) ∧
    (s.cancelled = true → ∀ t ∈ turns, t.outcome.calls = []) ∧
    (turns.Pairwise fun t u => t.outcome.session.cancelled = true → u.outcome.calls = []) ∧
    ∀ f : σ → Except Failure Unit,
      s.turns { db with stop := fun d => (f d, (db.stop d).2) } limit inquiries = turns := by
  intro inquiries turns
  have hgive : ∀ x ∈ inquiries, GivesUp x := by
    intro x hx
    obtain ⟨line, -, rfl⟩ := List.mem_map.1 hx
    exact givesUp_dispatch givesUp_builtin mode line
  exact ⟨Session.stopLaw_of_mem_turns hgive s, Session.calls_of_mem_turns,
    Session.pairwise_turns inquiries s, fun f => Session.turns_stop_result f inquiries s⟩

end Registry

end CatalogShell
