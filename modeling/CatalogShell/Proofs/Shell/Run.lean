import CatalogShell.Proofs.Shell.History
import CatalogShell.Shell.Run

/-!
# What a run of the shell carries out

A run sends the database what its loop executes, and nothing else: the database after the run, and
what is printed of results and failures, are those of carrying out `Loop.executions` one after the
other (`Shell.carryOutAll`). Between the results stands what the loop itself prints, which is the
same for every database (`Shell.exists_printed`).

`Loop.HistoryLaw` collects what this and the history of the loop say of a run.
-/

namespace CatalogShell

namespace Shell

variable {σ : Type}

/-- What carrying out an input prints in an output format, and the database after it. -/
def carryOut (u : Setup σ) (d : σ) (e : String × OutputFormat) : Transcript × σ :=
  let outcome := Session.run u.database u.limit (inquiry u.registry u.mode e.1).run
    { database := d }
  (({} : Transcript).report e.2 outcome.result, outcome.session.database)

/-- Carry out inputs one after the other. -/
def carryOutAll (u : Setup σ) : σ → List (String × OutputFormat) → List Transcript × σ
  | d, [] => ([], d)
  | d, e :: es =>
    let (t, d) := carryOut u d e
    let (ts, d) := carryOutAll u d es
    (t :: ts, d)

/-- What several inputs print to the output, each followed by a text. -/
def interleave (ts : List Transcript) (texts : List String) : String :=
  String.join (List.zipWith (fun t text => t.stdout ++ text) ts texts)

/-- What is printed of a result goes behind what has been printed. -/
theorem report_eq (t : Transcript) (format : OutputFormat) (r : Except Failure CommandResult) :
    t.report format r = {
      stdout := t.stdout ++ (({} : Transcript).report format r).stdout
      stderr := t.stderr ++ (({} : Transcript).report format r).stderr } := by
  cases r with
  | ok result => simp [Transcript.report, Transcript.print]
  | error e => simp [Transcript.report, String.append_assoc]

theorem execute_eq (u : Setup σ) (input : String) (s : State σ) :
    execute u input s = {
      loop := s.loop
      database := (carryOut u s.database (input, s.loop.output)).2
      transcript := {
        stdout := s.transcript.stdout ++ (carryOut u s.database (input, s.loop.output)).1.stdout
        stderr :=
          s.transcript.stderr ++ (carryOut u s.database (input, s.loop.output)).1.stderr } } := by
  simp only [execute, carryOut]
  rw [report_eq]

/-- What a run comes to is told by what its loop executes. What the loop itself prints, first and
behind each result, depends on the lines alone. -/
theorem exists_printed (l : Loop) (lines : List String) :
    ∃ first texts, texts.length = (l.executions lines).length ∧
      ∀ {σ : Type} (u : Setup σ) (d : σ) (t : Transcript),
        let r := carryOutAll u d (l.executions lines)
        runLines u { loop := l, database := d, transcript := t } lines = {
          loop := l.after lines
          database := r.2
          transcript := {
            stdout := t.stdout ++ first ++ interleave r.1 texts
            stderr := t.stderr ++ String.join (r.1.map (·.stderr)) } } := by
  induction lines generalizing l with
  | nil =>
    refine ⟨l.prompt, [], rfl, fun u d t => ?_⟩
    simp [runLines, Loop.executions, carryOutAll, Loop.after, Loop.history, Transcript.print,
      interleave]
  | cons line lines ih =>
    cases htake : l.take line with
    | mk effect next =>
      have heffect : (l.take line).1 = effect := by rw [htake]
      cases effect with
      | quit =>
        refine ⟨l.prompt, [], by simp [Loop.executions, htake], fun u d t => ?_⟩
        rw [Loop.after_cons_of_quit heffect, Loop.take_of_isQuit (Loop.isQuit_of_take heffect)]
        simp [runLines, advance, Loop.executions, htake, carryOutAll, Transcript.print, interleave]
      | print text =>
        obtain ⟨first, texts, hlength, hrun⟩ := ih next
        refine ⟨l.prompt ++ text ++ first, texts, by simpa [Loop.executions, htake] using hlength,
          fun u d t => ?_⟩
        rw [Loop.after_cons_of_ne_quit (by simp [heffect]), htake]
        simp only [runLines, advance, Loop.executions, htake, Transcript.print, hrun,
          String.append_assoc]
      | execute input =>
        obtain ⟨first, texts, hlength, hrun⟩ := ih next
        refine ⟨l.prompt, first :: texts, by simpa [Loop.executions, htake] using hlength,
          fun u d t => ?_⟩
        rw [Loop.after_cons_of_ne_quit (by simp [heffect]), htake]
        simp only [runLines, advance, Loop.executions, htake, Transcript.print, execute_eq, hrun,
          carryOutAll, interleave, List.zipWith_cons_cons, List.map_cons, String.join_cons,
          String.append_assoc]

end Shell

namespace Loop

/-- What a loop that starts with nothing pending makes of lines that it reads. -/
structure HistoryLaw (l : Loop) (lines : List String) : Prop where
  /-- The lines are read in order, each by the loop as the line before left it. -/
  read : (l.history lines).map Reading.line <+: lines
  first : ∀ t ∈ (l.history lines).head?, t.loop = l
  chained : (l.history lines).IsChain fun t u => u.loop = t.next
  /-- They are all read, unless one quits. Then nothing is read or executed any more. -/
  readAll : (∀ t ∈ l.history lines, ¬ t.loop.IsQuit t.line) →
    (l.history lines).map Reading.line = lines
  quits : ∀ earlier t later, l.history lines = earlier ++ t :: later → t.loop.IsQuit t.line →
    later = [] ∧ t.execution? = none
  /-- What is executed is what the lines that are read lead to. -/
  takes : ∀ t ∈ l.history lines, t.loop.Takes t.line t.effect t.next
  executed : l.executions lines = (l.history lines).filterMap Reading.execution?
  /-- A meta-command is executed alone, trimmed, and the dispatcher takes it for one. -/
  metaCommands : ∀ t ∈ l.history lines, t.loop.IsMeta t.line →
    t.execution? = some (Text.trim t.line, t.loop.output) ∧ IsMetaCommand (Text.trim t.line)
  /-- Everything else that is executed is the pending statement with its last line, and the
  dispatcher takes it for no meta-command. -/
  statements : ∀ t ∈ l.history lines, ∀ e, t.execution? = some e → ¬ t.loop.IsMeta t.line →
    t.isText = true ∧ completes t.line = true ∧
      e = (t.loop.pending ++ t.line ++ "\n", t.loop.output) ∧ IsStatement e.1
  /-- The lines of text are those of the statements that are executed and of the one that is
  pending in the end, with newlines, in order. -/
  texts : ∃ groups rest, Grouped (Reading.texts (l.history lines)) groups rest ∧
    Reading.statements (l.history lines) = groups.map written ∧
    (l.after lines).pending = written rest
  emptied : ∀ t ∈ l.history lines, t.isText = true → completes t.line = true → t.next.pending = ""
  /-- The output format has changed with every command before that changes it. -/
  output : ∀ earlier t later, l.history lines = earlier ++ t :: later →
    t.loop.output = OutputFormat.other^[earlier.countP Reading.isToggle] l.output
  /-- A run of the shell carries out just what is executed, whatever the database is. -/
  run : ∃ first texts, texts.length = (l.executions lines).length ∧
    ∀ {σ : Type} (u : Shell.Setup σ) (d : σ) (t : Transcript),
      let r := Shell.carryOutAll u d (l.executions lines)
      Shell.runLines u { loop := l, database := d, transcript := t } lines = {
        loop := l.after lines
        database := r.2
        transcript := {
          stdout := t.stdout ++ first ++ Shell.interleave r.1 texts
          stderr := t.stderr ++ String.join (r.1.map (·.stderr)) } }

theorem execution_of_isMeta {t : Reading} (h : t.loop.IsMeta t.line) :
    t.execution? = some (Text.trim t.line, t.loop.output) ∧ IsMetaCommand (Text.trim t.line) := by
  refine ⟨?_, isMetaCommand_of_head? h.2.1⟩
  rw [Reading.execution?, Reading.effect, take_of_isMeta h]

/-- What is executed and is no meta-command is a whole statement, also for the dispatcher. -/
theorem execution_of_not_isMeta {t : Reading} {e : String × OutputFormat} (hplain : t.loop.Plain)
    (he : t.execution? = some e) (hmeta : ¬ t.loop.IsMeta t.line) :
    t.isText = true ∧ completes t.line = true ∧
      e = (t.loop.pending ++ t.line ++ "\n", t.loop.output) ∧ IsStatement e.1 := by
  have htakes := t.takes
  rw [Reading.execution?] at he
  generalize t.effect = effect, t.next = next at htakes he
  cases htakes with
  | blank | quit | toggle | note | part => cases he
  | metaCommand h => exact absurd h hmeta
  | whole htext hends =>
    cases he
    exact ⟨by simp [Reading.isText, htext], hends, rfl, isStatement_iff.2 (hplain.head?_text htext)⟩

/-- What a loop executes, over any lines and from either output format on. -/
theorem obeys_historyLaw (format : OutputFormat) (lines : List String) :
    HistoryLaw { output := format } lines where
  read := map_line_history_isPrefix
  first := isChain_history.1
  chained := isChain_history.2
  readAll := map_line_history
  quits _ t _ h hquit := by
    refine ⟨history_eq_of_isQuit h hquit, ?_⟩
    rw [Reading.execution?, Reading.effect, take_of_isQuit hquit]
  takes t _ := t.takes
  executed := executions_eq_filterMap
  metaCommands _ _ h := execution_of_isMeta h
  statements t ht e he hmeta := by
    have hstart : Plain { output := format } := by simp [Plain]
    have hplain := forall_mem_history hstart (fun _ line hl => hl.take line) t ht
    exact execution_of_not_isMeta hplain he hmeta
  texts := by
    have hheld : ({ output := format } : Loop).pending = written [] := rfl
    simpa using exists_grouped_texts hheld (by simp)
  emptied t _ htext hends := by
    obtain ⟨hnot, -⟩ | ⟨-, hpart, -, -⟩ | ⟨-, -, -, hempty⟩ := t.loop.pending_take t.line
    · exact absurd (hnot.symm.trans htext) (by decide)
    · exact absurd (hpart.symm.trans hends) (by decide)
    · rw [Reading.next]
      exact hempty
  output _ _ _ h := output_of_history h
  run := Shell.exists_printed _ lines

/-- The second line starts with a backslash and belongs to a statement, and so does the third. -/
example : ({} : Loop).executions ["select", " \\d", ".json", "1;", ".json", " \\dt ", "\\q", "2;"] =
    [("select\n \\d\n.json\n1;\n", .table), ("\\dt", .json)] := by decide

end Loop

end CatalogShell
