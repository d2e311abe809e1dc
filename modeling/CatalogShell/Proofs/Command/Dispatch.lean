import CatalogShell.Command.Dispatch
import CatalogShell.Proofs.Command.Line
import CatalogShell.Proofs.Session.Exchange

/-!
# What becomes of a line

* `Dispatch.ofResult`: what the dispatch of a line makes of the result of its handler.
* `Registry.Dispatched`: the three ways in which the dispatch of a line can go. In two of them
  nothing is sent and nothing changes; in the third the whole run is one run of the handler.
* `Registry.dispatch_has_three_outcomes`: there is no other way, and the text of the line and the
  registry decide which of them it is.
-/

namespace CatalogShell

/-- A result of a handler as one of the dispatch: a success as it is, and a failure as the cause
for which the command failed. -/
def Dispatch.ofResult (verb : String) : Except Failure CommandResult → Except Failure Dispatch
  | .ok result => .ok (.handled result)
  | .error e => .error (.commandFailed verb e)

namespace Dispatch

variable (verb : String) (r : Except Failure CommandResult)

theorem ofResult_ne_notCommand : ofResult verb r ≠ .ok .notCommand := by
  cases r <;> simp [ofResult]

theorem ofResult_ne_unknown (verb' : String) : ofResult verb r ≠ .error (.unknownCommand verb') := by
  cases r <;> simp [ofResult]

end Dispatch

namespace Registration

variable {σ : Type} (r : Registration) (mode : PatternMode) (line : CommandLine)
  (db : Database σ) (limit : Option Nat) (s : Session σ)

/-- One run of a handler on the parts of a line. -/
def handle : Outcome σ (Except Failure CommandResult) :=
  s.run db limit (r.command.handler mode line.args line.verbose).run

theorem run_handler : s.run db limit (ExceptT.adapt (Failure.commandFailed line.verb)
      (Dispatch.handled <$> r.command.handler mode line.args line.verbose)).run =
    ⟨Dispatch.ofResult line.verb (r.handle mode line db limit s).result,
      (r.handle mode line db limit s).calls, (r.handle mode line db limit s).session⟩ := by
  rw [Session.run_adapt, map_eq_pure_bind, Session.run_bind_pure]
  unfold handle
  cases (s.run db limit (r.command.handler mode line.args line.verbose).run).result with
  | ok result => rfl
  | error e => rfl

end Registration

namespace Registry

variable {σ : Type} {g : Registry} {mode : PatternMode} {db : Database σ} {limit : Option Nat}
  {s : Session σ} {input : String} {outcome : Outcome σ (Except Failure Dispatch)}

/-- The ways in which the dispatch of a text can go, with what they send and leave. -/
inductive Dispatched (g : Registry) (mode : PatternMode) (db : Database σ) (limit : Option Nat)
    (s : Session σ) (input : String) : Outcome σ (Except Failure Dispatch) → Prop
  /-- The text is no command line. -/
  | notCommand (start : input.toList.head? ≠ some '\\') :
    Dispatched g mode db limit s input ⟨.ok .notCommand, [], s⟩
  /-- No command has the verb. -/
  | unknown (line : CommandLine) (splits : line.Splits input)
      (missing : g.lookup? line.verb = none) :
    Dispatched g mode db limit s input ⟨.error (.unknownCommand line.verb), [], s⟩
  /-- The command that has the verb is run. -/
  | handled (line : CommandLine) (splits : line.Splits input) (r : Registration)
      (found : g.lookup? line.verb = some r) :
    Dispatched g mode db limit s input
      ⟨Dispatch.ofResult line.verb (r.handle mode line db limit s).result,
        (r.handle mode line db limit s).calls, (r.handle mode line db limit s).session⟩

theorem dispatched (g : Registry) (mode : PatternMode) (db : Database σ) (limit : Option Nat)
    (s : Session σ) (input : String) :
    Dispatched g mode db limit s input (s.run db limit (g.dispatch mode input).run) := by
  unfold dispatch
  cases hline : CommandLine.parse? input with
  | none => exact .notCommand (CommandLine.parse?_eq_none_iff.1 hline)
  | some line =>
    have hsplits : line.Splits input := CommandLine.parse?_eq_some_iff.1 hline
    dsimp only
    cases hr : g.lookup? line.verb with
    | none => exact .unknown line hsplits hr
    | some r =>
      rw [Registration.run_handler]
      exact .handled line hsplits r hr

namespace Dispatched

/-- A text is found to be no command line just if it does not start with a backslash. -/
theorem notCommand_iff (h : Dispatched g mode db limit s input outcome) :
    outcome.result = .ok .notCommand ↔ input.toList.head? ≠ some '\\' := by
  cases h with
  | notCommand start => exact iff_of_true rfl start
  | unknown line splits missing =>
    refine iff_of_false ?_ fun hstart => hstart splits.head?_input
    intro hresult
    cases hresult
  | handled line splits r found =>
    exact iff_of_false (Dispatch.ofResult_ne_notCommand _ _)
      fun hstart => hstart splits.head?_input

/-- A verb is reported as unknown just if it is the verb of the text and no command has it. A
handler that fails for an unknown verb of its own is not taken for this. -/
theorem unknown_iff (h : Dispatched g mode db limit s input outcome) (verb : String) :
    outcome.result = .error (.unknownCommand verb) ↔
      ∃ line : CommandLine, line.Splits input ∧ line.verb = verb ∧ g.lookup? verb = none := by
  cases h with
  | notCommand start =>
    refine iff_of_false (by simp) ?_
    rintro ⟨line, splits, -⟩
    exact start splits.head?_input
  | unknown line splits missing =>
    constructor
    · intro hresult
      obtain rfl : line.verb = verb := by simpa using hresult
      exact ⟨line, splits, rfl, missing⟩
    · rintro ⟨line', splits', rfl, -⟩
      rw [splits.unique splits']
  | handled line splits r found =>
    refine iff_of_false (Dispatch.ofResult_ne_unknown _ _ _) ?_
    rintro ⟨line', splits', rfl, missing⟩
    rw [← splits.unique splits', found] at missing
    cases missing

/-- The command of the text is run: the result of the dispatch is that of its handler. -/
theorem result_of_found (h : Dispatched g mode db limit s input outcome) {line : CommandLine}
    (hline : line.Splits input) {r : Registration} (hr : g.lookup? line.verb = some r) :
    outcome.result = Dispatch.ofResult line.verb (r.handle mode line db limit s).result ∧
      outcome.calls = (r.handle mode line db limit s).calls := by
  cases h with
  | notCommand start => exact absurd hline.head?_input start
  | unknown line' splits missing =>
    rw [splits.unique hline, hr] at missing
    cases missing
  | handled line' splits r' found =>
    obtain rfl := splits.unique hline
    obtain rfl : r' = r := by simpa [hr] using found.symm
    exact ⟨rfl, rfl⟩

theorem ofCommand_of_error (h : Dispatched g mode db limit s input outcome) {e : Failure}
    (he : outcome.result = .error e) : e.ofCommand = true := by
  cases h with
  | notCommand start => cases he
  | unknown line splits missing =>
    obtain rfl : Failure.unknownCommand line.verb = e := by simpa using he
    rfl
  | handled line splits r found =>
    cases hr : (r.handle mode line db limit s).result with
    | ok result => simp [hr, Dispatch.ofResult] at he
    | error cause =>
      obtain rfl : Failure.commandFailed line.verb cause = e := by
        simpa [hr, Dispatch.ofResult] using he
      rfl

end Dispatched

/-- A text that is dispatched goes one of three ways. It is no command line, exactly if it does not
start with a backslash; or its verb is unknown, exactly if it starts with a backslash and no command
has the verb; or the command that has the verb is run once on the parts of the text, with its
success as the result and its failure as the cause of one. A text that starts with a backslash has
one verb, one argument text and one form. Every failure is one of a meta-command, and its innermost
cause is that of the handler's failure. -/
theorem dispatch_has_three_outcomes (g : Registry) (mode : PatternMode) (db : Database σ)
    (limit : Option Nat) (s : Session σ) (input : String) :
    let outcome := s.run db limit (g.dispatch mode input).run
    Dispatched g mode db limit s input outcome ∧
    (outcome.result = .ok .notCommand ↔ input.toList.head? ≠ some '\\') ∧
    (∀ verb, outcome.result = .error (.unknownCommand verb) ↔
      ∃ line : CommandLine, line.Splits input ∧ line.verb = verb ∧ g.lookup? verb = none) ∧
    (input.toList.head? = some '\\' → ∃! line : CommandLine, line.Splits input) ∧
    (∀ e, outcome.result = .error e → e.ofCommand = true) ∧
    ∀ (line : CommandLine) (r : Registration) (cause : Failure), line.Splits input →
      g.lookup? line.verb = some r → (r.handle mode line db limit s).result = .error cause →
      ∃ e, outcome.result = .error e ∧ e.root = cause.root := by
  intro outcome
  have hway : Dispatched g mode db limit s input outcome := dispatched g mode db limit s input
  refine ⟨hway, hway.notCommand_iff, hway.unknown_iff, ?_, fun e => hway.ofCommand_of_error, ?_⟩
  · intro hstart
    obtain ⟨line, hline⟩ := CommandLine.exists_splits hstart
    exact ⟨line, hline, fun line' hline' => hline'.unique hline⟩
  · intro line r cause hline hr hcause
    refine ⟨.commandFailed line.verb cause, ?_, rfl⟩
    rw [(hway.result_of_found hline hr).1, hcause]
    rfl

end Registry

end CatalogShell
