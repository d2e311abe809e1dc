import CatalogShell.Proofs.Command.Abandon
import CatalogShell.Proofs.Command.Dispatch
import CatalogShell.Proofs.Command.ExtensionMembers
import CatalogShell.Proofs.Pattern.OpenQuote
import CatalogShell.Script

/-!
# Commands in the strict mode

A command whose usage ends in `[pattern]` compiles its arguments before it asks anything, and makes
no other use of the mode (`Handler.CompilesFirst`). So in the strict mode it refuses an open quote
without a query, and everything else it does as in the lenient mode.

The one exception is the verbose form of `\dx` (`Command.TakesName`): its arguments are the name of
an extension, no pattern, and a quote in them stands for itself.

`Registry.strict_refuses_open_quotes` says so for the dispatch of any line.
-/

namespace CatalogShell

variable {σ : Type} {db : Database σ} {limit : Option Nat} {s : Session σ}

/-! ## Runs that start with a query -/

/-- The arguments were refused for an open quote, without a query. -/
def Outcome.Refuses {α : Type} (out : Outcome σ (Except Failure α)) (args : String) : Prop :=
  out.calls = [] ∧ ∃ e, out.result = .error e ∧ e.root = .unterminatedQuote args

/-- A query that is asked first is only kept from being sent by the cancelled token. -/
theorem Lookup.GivesUp.not_refuses_ask {α : Type} {q : Query}
    {resume : Answer → Inquiry (Except Failure α)} (h : GivesUp (.ask q resume)) (args : String) :
    ¬ (s.run db limit (.ask q resume)).Refuses args := by
  rintro ⟨hcalls, e, he, hroot⟩
  cases hc : s.cancelled with
  | true =>
    cases h with
    | ask stops next =>
      obtain ⟨e', hresume, hcancelled⟩ := stops .cancelled rfl
      simp only [Session.run, Session.send_of_cancelled q hc, hresume] at he
      obtain rfl : e' = e := by simpa using he
      rw [hcancelled] at hroot
      cases hroot
  | false => simp [Session.run, Session.calls_send q hc, Exchange.calls] at hcalls

/-! ## Handlers -/

namespace Handler

/-- In a form, the handler compiles its arguments, and then asks a query in a way that no longer
depends on the mode. -/
def CompilesFirst (h : Handler) (verbose : Bool) : Prop :=
  ∃ rest : Pattern → String → Lookup CommandResult,
    (∀ mode args, h mode args verbose = liftM (mode.compile args) >>= fun p => rest p args) ∧
    ∀ p args, ∃ q resume, (rest p args).run = .ask q resume

theorem compilesFirst_listing (query : Pattern → Bool → Query) (verbose : Bool) :
    (listing query).CompilesFirst verbose :=
  ⟨fun p _ => Lookup.ask (query p verbose) >>= fun answer => pure (.rows answer),
    fun _ _ => rfl, fun _ _ => ⟨_, _, rfl⟩⟩

theorem compilesFirst_tablespaces (verbose : Bool) : tablespaces.CompilesFirst verbose :=
  ⟨fun p _ => do
      let row ← Lookup.askFirst Listing.locationProbe
      let location ← row.bool Listing.locationProbe.label 0
      return .rows (← Lookup.ask (Listing.tablespaces p location)),
    fun _ _ => rfl, fun _ _ => ⟨_, _, rfl⟩⟩

theorem compilesFirst_extensions : extensions.CompilesFirst false :=
  compilesFirst_listing (fun p _ => Listing.extensions p) false

theorem compilesFirst_describe (verbose : Bool) : describe.CompilesFirst verbose := by
  refine ⟨fun p args => if args = "" then
      Lookup.ask (Listing.relations p verbose listedKinds) >>= fun t => pure (.rows t)
    else Resolve.required args p [] >>= fun os =>
      describeAll verbose os >>= fun rs => pure (.reports rs), fun _ _ => rfl, fun p args => ?_⟩
  dsimp only
  by_cases hargs : args = ""
  · rw [if_pos hargs]
    exact ⟨_, _, rfl⟩
  · rw [if_neg hargs]
    exact ⟨_, _, rfl⟩

namespace CompilesFirst

variable {h : Handler} {args : String} {verbose : Bool}

theorem run_of_odd (hc : h.CompilesFirst verbose) (hodd : Odd (args.toList.count '"')) :
    s.run db limit (h .strict args verbose).run = ⟨.error (.unterminatedQuote args), [], s⟩ := by
  obtain ⟨rest, hrest, -⟩ := hc
  rw [hrest, PatternMode.compile_strict_of_odd hodd]
  rfl

theorem eq_of_even (hc : h.CompilesFirst verbose) (heven : Even (args.toList.count '"')) :
    h .strict args verbose = h .lenient args verbose := by
  obtain ⟨rest, hrest, -⟩ := hc
  rw [hrest, hrest, PatternMode.compile_of_even _ heven, PatternMode.compile_of_even _ heven]

/-- Arguments that compile lead to a query, so they are not refused without one. -/
theorem not_refuses_of_even (hc : h.CompilesFirst verbose)
    (hgive : Lookup.GivesUp (h .strict args verbose).run)
    (heven : Even (args.toList.count '"')) :
    ¬ (s.run db limit (h .strict args verbose).run).Refuses args := by
  obtain ⟨rest, hrest, hask⟩ := hc
  obtain ⟨q, resume, hq⟩ := hask (.compile args) args
  have hrun : (h .strict args verbose).run = .ask q resume := by
    rw [hrest, PatternMode.compile_of_even _ heven, ← hq]
    rfl
  rw [hrun] at hgive ⊢
  exact hgive.not_refuses_ask args

theorem refuses_iff (hc : h.CompilesFirst verbose)
    (hgive : Lookup.GivesUp (h .strict args verbose).run) :
    (s.run db limit (h .strict args verbose).run).Refuses args ↔ Odd (args.toList.count '"') := by
  constructor
  · intro hrefuses
    by_contra hodd
    exact hc.not_refuses_of_even hgive (Nat.not_odd_iff_even.1 hodd) hrefuses
  · intro hodd
    rw [hc.run_of_odd hodd]
    exact ⟨rfl, _, rfl, rfl⟩

end CompilesFirst

end Handler

/-! ## Commands -/

namespace Command

/-- The usage of the command ends in `[pattern]`. -/
def TakesPattern (c : Command) : Prop := "[pattern]".toList <:+ c.usage.toList

/-- The arguments of the form are the name of an extension. -/
def TakesName (c : Command) (verbose : Bool) : Prop := c.verb = "\\dx" ∧ verbose = true

/-- The command treats its arguments as its usage says. -/
def KeepsUsage (c : Command) : Prop :=
  c.TakesPattern → ∀ verbose, (¬ c.TakesName verbose → c.handler.CompilesFirst verbose) ∧
    (c.TakesName verbose → c.handler = .extensions)

theorem keepsUsage_of_compilesFirst {c : Command} (hverb : c.verb ≠ "\\dx")
    (h : ∀ verbose, c.handler.CompilesFirst verbose) : c.KeepsUsage :=
  fun _ verbose => ⟨fun _ => h verbose, fun hname => absurd hname.1 hverb⟩

theorem keepsUsage_of_mem_builtin : ∀ c ∈ builtin, c.KeepsUsage := by
  have hlisting {c : Command} (hverb : c.verb ≠ "\\dx") (query : Pattern → Bool → Query)
      (h : c.handler = .listing query) : c.KeepsUsage :=
    keepsUsage_of_compilesFirst hverb fun verbose =>
      h ▸ Handler.compilesFirst_listing query verbose
  have hextensions (c : Command) (hverb : c.verb = "\\dx") (h : c.handler = .extensions) :
      c.KeepsUsage := by
    intro _ verbose
    refine ⟨fun hname => ?_, fun _ => h⟩
    obtain rfl : verbose = false := by simpa [TakesName, hverb] using hname
    exact h ▸ Handler.compilesFirst_extensions
  simp only [builtin, List.forall_mem_cons]
  refine ⟨hlisting (by decide) _ rfl, hlisting (by decide) _ rfl, hlisting (by decide) _ rfl,
    hlisting (by decide) _ rfl, hlisting (by decide) _ rfl,
    keepsUsage_of_compilesFirst (by decide) Handler.compilesFirst_tablespaces,
    hlisting (by decide) _ rfl, hlisting (by decide) _ rfl, hlisting (by decide) _ rfl,
    hlisting (by decide) _ rfl, hlisting (by decide) _ rfl, hlisting (by decide) _ rfl,
    hlisting (by decide) _ rfl, hlisting (by decide) _ rfl, hextensions _ rfl rfl,
    hlisting (by decide) _ rfl, ?_,
    keepsUsage_of_compilesFirst (by decide) Handler.compilesFirst_describe,
    keepsUsage_of_compilesFirst (by decide) Handler.compilesFirst_describe, by simp⟩
  -- The name of a function is no pattern.
  exact fun htakes => absurd htakes (by unfold TakesPattern; decide)

end Command

namespace Registry

theorem keepsUsage_builtin : builtin.Has Command.KeepsUsage := by
  refine has_builtin Command.keepsUsage_of_mem_builtin fun others htakes => ?_
  have hnot : ¬ "[pattern]".toList <:+ "\\?".toList := by decide
  exact absurd htakes hnot

variable {g : Registry} {mode : PatternMode} {input : String} {line : CommandLine}
  {r : Registration}

theorem dispatch_of_found (hline : line.Splits input) (hr : g.lookup? line.verb = some r) :
    g.dispatch mode input = ExceptT.adapt (Failure.commandFailed line.verb)
      (Dispatch.handled <$> r.command.handler mode line.args line.verbose) := by
  simp only [dispatch, CommandLine.parse?_of_splits hline, hr]

/-- A dispatch refuses the arguments if the handler does. -/
theorem refuses_dispatch_iff (hline : line.Splits input) (hr : g.lookup? line.verb = some r)
    (args : String) : (s.run db limit (g.dispatch mode input).run).Refuses args ↔
      (r.handle mode line db limit s).Refuses args := by
  rw [dispatch_of_found hline hr, Registration.run_handler]
  unfold Outcome.Refuses
  cases (r.handle mode line db limit s).result with
  | ok result => simp [Dispatch.ofResult]
  | error e => simp [Dispatch.ofResult, Failure.root]

/-- What the strict mode changes, for any line whose command takes a pattern by its usage, on any
database. The dispatch is refused without a query exactly if the arguments have an odd number of
quotes, and with an even number it is the same in both modes: the same result, the same calls, the
same session after it. Only the verbose form of `\dx` takes the name of an extension instead. It is
the same in both modes for all arguments, and asks for the extension of just that name. -/
theorem strict_refuses_open_quotes (db : Database σ) (limit : Option Nat) (s : Session σ)
    {input : String} {line : CommandLine} {r : Registration} (hline : line.Splits input)
    (hr : builtin.lookup? line.verb = some r) (hpattern : r.command.TakesPattern) :
    let strict := s.run db limit (builtin.dispatch .strict input).run
    let lenient := s.run db limit (builtin.dispatch .lenient input).run
    (¬ r.command.TakesName line.verbose →
      (strict.Refuses line.args ↔ Odd (line.args.toList.count '"')) ∧
      (Even (line.args.toList.count '"') → strict = lenient)) ∧
    (r.command.TakesName line.verbose → strict = lenient ∧ ¬ strict.Refuses line.args ∧
      (s.cancelled = false →
        strict.calls.head? = some (.query (Listing.findExtensions line.args)))) := by
  intro strict lenient
  obtain ⟨hcompiles, hname⟩ := keepsUsage_builtin.lookup? hr hpattern line.verbose
  have hgive := givesUp_builtin.lookup? hr .strict line.args line.verbose
  constructor
  · intro hnot
    have hfirst := hcompiles hnot
    refine ⟨(refuses_dispatch_iff hline hr _).trans (hfirst.refuses_iff hgive), fun heven => ?_⟩
    have hsame := hfirst.eq_of_even heven
    simp only [strict, lenient, dispatch_of_found hline hr, hsame]
  · intro htakes
    have hhandler (mode : PatternMode) : r.command.handler mode line.args line.verbose =
        Lookup.ask (Listing.findExtensions line.args) >>= fun found =>
          found.rows.mapM (Handler.extensionOfRow (Listing.findExtensions line.args).label) >>=
            fun xs => pure (.extensions xs) := by
      rw [hname htakes, htakes.2]
      exact Handler.extensions_verbose mode line.args
    refine ⟨?_, ?_, fun hsent => ?_⟩
    · simp only [strict, lenient, dispatch_of_found hline hr, hhandler]
    · rw [hhandler] at hgive
      rw [refuses_dispatch_iff hline hr, Registration.handle, hhandler]
      exact hgive.not_refuses_ask line.args
    · change (s.run db limit (builtin.dispatch .strict input).run).calls.head? = _
      rw [dispatch_of_found hline hr, Registration.run_handler, Registration.handle, hhandler]
      change (s.run db limit (.ask (Listing.findExtensions line.args) _)).calls.head? = _
      simp only [Session.run, Session.calls_send _ hsent, Exchange.calls, List.cons_append,
        List.head?_cons]

theorem strict_refuses_open_quotes_tables :
    ∃ r, builtin.lookup? "\\dt" = some r ∧ r.command.TakesPattern ∧
      ¬ r.command.TakesName true ∧ Odd ("\"My\".\"t".toList.count '"') ∧
      (Session.run Script.database none (builtin.dispatch .strict "\\dt+ \"My\".\"t").run
        { database := {} }).Refuses "\"My\".\"t" := by
  have hline : CommandLine.Splits "\\dt+ \"My\".\"t" ⟨"\\dt", "\"My\".\"t", true⟩ :=
    CommandLine.parse?_eq_some_iff.1 rfl
  have hname : ¬ (Command.relations "\\dt" "List tables." [.table, .partitionedTable]).TakesName
      true := fun h => absurd h.1 (by decide)
  have hpattern : "[pattern]".toList <:+ "\\dt[+] [pattern]".toList := by decide
  have hodd : Odd ("\"My\".\"t".toList.count '"') := by decide
  exact ⟨_, rfl, hpattern, hname, hodd,
    ((strict_refuses_open_quotes Script.database none { database := {} } hline rfl
      hpattern).1 hname).1.2 hodd⟩

/-- The verbose form of `\dx` sends an open quote, in the strict mode too. -/
theorem strict_sends_open_quote :
    ∃ r, CommandLine.Splits "\\dx+ \"open" ⟨"\\dx", "\"open", true⟩ ∧
      builtin.lookup? "\\dx" = some r ∧ r.command.TakesPattern ∧
      Odd ("\"open".toList.count '"') ∧
      let out := Session.run Script.database none (builtin.dispatch .strict "\\dx+ \"open").run
        { database := {} }
      out.result = .ok (.handled (.extensions [])) ∧
      out.calls = [.query (Listing.findExtensions "\"open")] ∧ ¬ out.Refuses "\"open" := by
  have hpattern : "[pattern]".toList <:+ "\\dx[+] [pattern]".toList := by decide
  refine ⟨_, CommandLine.parse?_eq_some_iff.1 rfl, rfl, hpattern, by decide, rfl, rfl, ?_⟩
  rintro ⟨hcalls, -⟩
  cases hcalls

end Registry

end CatalogShell
