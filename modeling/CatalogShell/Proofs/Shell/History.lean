import CatalogShell.Proofs.Shell.Take
import Mathlib.Data.List.Chain
import Mathlib.Logic.Function.Iterate

/-!
# The history of a loop

`Loop.history` lists the lines that are read, each with the loop as it was then. What is executed
can be read off it (`Loop.executions_eq_filterMap`), and so can where the text of every statement
comes from: the lines of text are those of the statements that are executed, one statement after
the other, and then those that are still pending (`Loop.exists_grouped_texts`).
-/

namespace CatalogShell

/-- A line that is read, and the loop as it is then. -/
structure Reading where
  loop : Loop
  line : String

namespace Reading

variable (t : Reading)

/-- What the line leads to. -/
def effect : LineEffect := (t.loop.take t.line).1

/-- The loop after the line. -/
def next : Loop := (t.loop.take t.line).2

/-- What the line executes, with the output format. -/
def execution? : Option (String × OutputFormat) :=
  match t.effect with
  | .execute input => some (input, t.loop.output)
  | _ => none

/-- The line belongs to a statement. -/
def isText : Bool := t.loop.IsText t.line

/-- The line changes the output format. -/
def isToggle : Bool := t.loop.IsToggle t.line

theorem takes : t.loop.Takes t.line t.effect t.next := Loop.takes_take t.loop t.line

end Reading

/-- The lines of text among those that are read. -/
def Reading.texts (ts : List Reading) : List String := (ts.filter isText).map line

/-- The statements that are executed, in order. -/
def Reading.statements (ts : List Reading) : List String :=
  (ts.filter isText).filterMap fun t => t.execution?.map Prod.fst

namespace Loop

/-- The lines that are read, up to one that quits. -/
def history : Loop → List String → List Reading
  | _, [] => []
  | l, line :: rest =>
    ⟨l, line⟩ :: if (l.take line).1 = .quit then [] else (l.take line).2.history rest

/-- The loop after the last line that is read. -/
def after (l : Loop) (lines : List String) : Loop :=
  (l.history lines).foldl (fun _ t => t.next) l

/-- The lines as they were read, each with a newline. -/
def written (lines : List String) : String := String.join (lines.map (· ++ "\n"))

variable {l : Loop} {line : String} {lines : List String}

/-! ## One line more -/

theorem history_cons_of_quit (h : (l.take line).1 = .quit) :
    l.history (line :: lines) = [⟨l, line⟩] := by
  rw [history, if_pos h]

theorem history_cons_of_ne_quit (h : (l.take line).1 ≠ .quit) :
    l.history (line :: lines) = ⟨l, line⟩ :: (l.take line).2.history lines := by
  rw [history, if_neg h]

theorem after_cons_of_quit (h : (l.take line).1 = .quit) :
    l.after (line :: lines) = (l.take line).2 := by
  simp only [after, history_cons_of_quit h, List.foldl_cons, List.foldl_nil, Reading.next]

theorem after_cons_of_ne_quit (h : (l.take line).1 ≠ .quit) :
    l.after (line :: lines) = (l.take line).2.after lines := by
  simp only [after, history_cons_of_ne_quit h, List.foldl_cons, Reading.next]

/-- A line quits only as a command that does so. -/
theorem isQuit_of_take (h : (l.take line).1 = .quit) : l.IsQuit line := by
  have htakes := l.takes_take line
  rw [h] at htakes
  generalize (l.take line).2 = next at htakes
  cases htakes with
  | quit hquit => exact hquit

/-! ## What is read -/

/-- Each line is read by the loop as the line before it left it. -/
theorem isChain_history :
    (∀ t ∈ (l.history lines).head?, t.loop = l) ∧
      (l.history lines).IsChain fun t u => u.loop = t.next := by
  induction lines generalizing l with
  | nil => exact ⟨nofun, .nil⟩
  | cons line lines ih =>
    obtain ⟨hhead, hchain⟩ := @ih (l.take line).2
    rw [history]
    split
    · exact ⟨by simp, .singleton _⟩
    · exact ⟨by simp, hchain.cons hhead⟩

theorem map_line_history_isPrefix : (l.history lines).map Reading.line <+: lines := by
  induction lines generalizing l with
  | nil => exact List.nil_prefix
  | cons line lines ih =>
    by_cases hquit : (l.take line).1 = .quit
    · simp [history_cons_of_quit hquit]
    · simpa [history_cons_of_ne_quit hquit] using ih

/-- If no line quits, all lines are read. -/
theorem map_line_history (h : ∀ t ∈ l.history lines, ¬ t.loop.IsQuit t.line) :
    (l.history lines).map Reading.line = lines := by
  induction lines generalizing l with
  | nil => rfl
  | cons line lines ih =>
    by_cases hquit : (l.take line).1 = .quit
    · rw [history_cons_of_quit hquit] at h
      exact absurd (isQuit_of_take hquit) (h _ List.mem_cons_self)
    · rw [history_cons_of_ne_quit hquit] at h ⊢
      rw [List.map_cons, ih fun t ht => h t (List.mem_cons_of_mem _ ht)]

/-- A line that quits is the last one that is read. -/
theorem history_eq_of_isQuit {earlier later : List Reading} {t : Reading}
    (h : l.history lines = earlier ++ t :: later) (hquit : t.loop.IsQuit t.line) : later = [] := by
  induction lines generalizing l earlier with
  | nil => simp [history] at h
  | cons line lines ih =>
    by_cases hstop : (l.take line).1 = .quit
    · rw [history_cons_of_quit hstop] at h
      have hlength := congrArg List.length h
      simp only [List.length_cons, List.length_nil, List.length_append] at hlength
      exact List.eq_nil_of_length_eq_zero (by omega)
    · rw [history_cons_of_ne_quit hstop] at h
      cases earlier with
      | nil =>
        obtain ⟨rfl, -⟩ := List.cons.inj h
        exact absurd (congrArg Prod.fst (take_of_isQuit hquit)) hstop
      | cons u earlier => exact ih (List.cons.inj h).2

/-- What every line keeps holds whenever a line is read. -/
theorem forall_mem_history {P : Loop → Prop} (hl : P l)
    (hstep : ∀ l line, P l → P (l.take line).2) : ∀ t ∈ l.history lines, P t.loop := by
  induction lines generalizing l with
  | nil => simp [history]
  | cons line lines ih =>
    intro t ht
    rw [history, List.mem_cons] at ht
    obtain rfl | ht := ht
    · exact hl
    · split at ht
      · cases ht
      · exact ih (hstep l line hl) t ht

/-- The output format has changed once for each line that changed it. -/
theorem output_of_history {earlier later : List Reading} {t : Reading}
    (h : l.history lines = earlier ++ t :: later) :
    t.loop.output = OutputFormat.other^[earlier.countP Reading.isToggle] l.output := by
  induction lines generalizing l earlier with
  | nil => simp [history] at h
  | cons line lines ih =>
    rw [history] at h
    cases earlier with
    | nil =>
      obtain ⟨rfl, -⟩ := List.cons.inj h
      rfl
    | cons u earlier =>
      obtain ⟨rfl, hrest⟩ := List.cons.inj h
      split at hrest
      · cases earlier <;> cases hrest
      · rw [ih hrest, List.countP_cons, Function.iterate_add_apply, output_take, Reading.isToggle]
        by_cases htoggle : l.IsToggle line <;> simp [htoggle]

/-! ## What is executed -/

theorem executions_eq_filterMap :
    l.executions lines = (l.history lines).filterMap Reading.execution? := by
  induction lines generalizing l with
  | nil => rfl
  | cons line lines ih =>
    cases heffect : l.take line with
    | mk effect next =>
      rw [executions, history, heffect]
      cases effect with
      | quit => simp [Reading.execution?, Reading.effect, heffect]
      | print text => simp [Reading.execution?, Reading.effect, heffect, ih]
      | execute input => simp [Reading.execution?, Reading.effect, heffect, ih]

/-! ## Where the text of a statement comes from -/

/-- Text completes the pending statement, or is added to it. Everything else leaves it as it is. -/
theorem pending_take (l : Loop) (line : String) :
    (Reading.isText ⟨l, line⟩ = false ∧ (l.take line).2.pending = l.pending) ∨
    (Reading.isText ⟨l, line⟩ = true ∧ completes line = false ∧
      Reading.execution? ⟨l, line⟩ = none ∧
      (l.take line).2.pending = l.pending ++ line ++ "\n") ∨
    (Reading.isText ⟨l, line⟩ = true ∧ completes line = true ∧
      Reading.execution? ⟨l, line⟩ = some (l.pending ++ line ++ "\n", l.output) ∧
      (l.take line).2.pending = "") := by
  by_cases htext : l.IsText line
  · have hadd := take_of_isText htext
    cases hends : completes line with
    | false =>
      refine .inr (.inl ⟨by simp [Reading.isText, htext], rfl, ?_, ?_⟩) <;>
        simp [Reading.execution?, Reading.effect, hadd, add, hends]
    | true =>
      refine .inr (.inr ⟨by simp [Reading.isText, htext], rfl, ?_, ?_⟩) <;>
        simp [Reading.execution?, Reading.effect, hadd, add, hends]
  · refine .inl ⟨by simp [Reading.isText, htext], ?_⟩
    have htakes := l.takes_take line
    generalize (l.take line).1 = effect, (l.take line).2 = next at htakes
    cases htakes with
    | blank | quit | toggle | note | metaCommand => rfl
    | part h | whole h => exact absurd h htext

end Loop

namespace Reading

theorem isText_of_isQuit {t : Reading} (h : t.loop.IsQuit t.line) : t.isText = false := by
  have hcommand : t.loop.IsCommand t.line := by
    obtain ⟨hpending, hword⟩ := h
    simp only [Loop.quitWords, List.mem_cons, List.not_mem_nil, or_false] at hword
    obtain hword | hword | hword := hword
    · exact ⟨hpending, .inr (by simp [hword])⟩
    · exact ⟨hpending, .inr (by simp [hword])⟩
    · exact ⟨hpending, .inl (by simp [hword])⟩
  have hnot : ¬ t.loop.IsText t.line := fun htext => htext.2 hcommand
  simpa [isText] using hnot

variable {t : Reading} {ts : List Reading}

theorem texts_cons_of_not (h : t.isText = false) : texts (t :: ts) = texts ts := by
  rw [texts, List.filter_cons_of_neg (by simp [h]), texts]

theorem texts_cons (h : t.isText = true) : texts (t :: ts) = t.line :: texts ts := by
  rw [texts, List.filter_cons_of_pos h, List.map_cons, texts]

theorem statements_cons_of_not (h : t.isText = false) : statements (t :: ts) = statements ts := by
  rw [statements, List.filter_cons_of_neg (by simp [h]), statements]

theorem statements_cons (h : t.isText = true) :
    statements (t :: ts) = (t.execution?.map Prod.fst).toList ++ statements ts := by
  rw [statements, List.filter_cons_of_pos h, List.filterMap_cons, statements]
  cases t.execution? <;> rfl

end Reading

namespace Loop

/-- Lines of text fall into the lines of whole statements and those of one that is not complete. -/
structure Grouped (texts : List String) (groups : List (List String)) (rest : List String) :
    Prop where
  texts_eq : texts = groups.flatten ++ rest
  /-- A statement is complete after its last line, and not before. -/
  whole : ∀ group ∈ groups, ∃ lines last, group = lines ++ [last] ∧ completes last = true ∧
    ∀ line ∈ lines, completes line = false
  part : ∀ line ∈ rest, completes line = false

@[simp] theorem written_append (lines lines' : List String) :
    written (lines ++ lines') = written lines ++ written lines' := by
  simp [written]

@[simp] theorem written_singleton (line : String) : written [line] = line ++ "\n" := by
  simp [written]

/-- No line of text is lost, doubled or moved: the statements that are executed and the one that is
pending are made of the lines of text as they were read, after those that were pending at first. -/
theorem exists_grouped_texts {l : Loop} {lines held : List String}
    (hheld : l.pending = written held) (hpart : ∀ line ∈ held, completes line = false) :
    ∃ groups rest, Grouped (held ++ Reading.texts (l.history lines)) groups rest ∧
      Reading.statements (l.history lines) = groups.map written ∧
      (l.after lines).pending = written rest := by
  induction lines generalizing l held with
  | nil =>
    refine ⟨[], held, ⟨?_, by simp, hpart⟩, rfl, hheld⟩
    simp [history, Reading.texts]
  | cons line lines ih =>
    by_cases hquit : (l.take line).1 = .quit
    · have hisQuit := isQuit_of_take hquit
      have htext : Reading.isText ⟨l, line⟩ = false := Reading.isText_of_isQuit hisQuit
      rw [history_cons_of_quit hquit, after_cons_of_quit hquit, take_of_isQuit hisQuit,
        Reading.texts_cons_of_not htext, Reading.statements_cons_of_not htext]
      refine ⟨[], held, ⟨?_, by simp, hpart⟩, rfl, hheld⟩
      simp [Reading.texts]
    rw [history_cons_of_ne_quit hquit, after_cons_of_ne_quit hquit]
    obtain ⟨htext, hpending⟩ | ⟨htext, hends, hnone, hpending⟩ | ⟨htext, hends, hsome, hpending⟩ :=
      l.pending_take line
    · -- the line is no text
      rw [Reading.texts_cons_of_not htext, Reading.statements_cons_of_not htext]
      exact ih (hpending.trans hheld) hpart
    · -- the line is added to the lines that are pending
      have hheld' : (l.take line).2.pending = written (held ++ [line]) := by
        rw [hpending, written_append, written_singleton, ← hheld, ← String.append_assoc]
      have hpart' : ∀ text ∈ held ++ [line], completes text = false := by
        intro text htext
        obtain hmem | hmem := List.mem_append.1 htext
        · exact hpart text hmem
        · rw [List.mem_singleton.1 hmem]
          exact hends
      obtain ⟨groups, rest, hgrouped, hstatements, hafter⟩ := ih hheld' hpart'
      refine ⟨groups, rest, ?_, ?_, hafter⟩
      · rw [Reading.texts_cons htext]
        simpa using hgrouped
      · rw [Reading.statements_cons htext, hnone]
        exact hstatements
    · -- the line is the last one of the statement that was pending
      have hheld' : (l.take line).2.pending = written [] := hpending
      obtain ⟨groups, rest, hgrouped, hstatements, hafter⟩ := ih hheld' (by simp)
      refine ⟨(held ++ [line]) :: groups, rest, ⟨?_, ?_, hgrouped.part⟩, ?_, hafter⟩
      · rw [Reading.texts_cons htext]
        simpa using hgrouped.texts_eq
      · intro group hgroup
        obtain rfl | hgroup := List.mem_cons.1 hgroup
        · exact ⟨held, line, rfl, hends, hpart⟩
        · exact hgrouped.whole group hgroup
      · rw [Reading.statements_cons htext, hsome, hstatements, List.map_cons, written_append,
          written_singleton, ← hheld, ← String.append_assoc]
        rfl

end Loop

end CatalogShell
