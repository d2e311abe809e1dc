import CatalogShell.Proofs.Command.Dispatch
import CatalogShell.Shell.Loop

/-!
# What one line leads to

A line is blank, or a command that is read while no statement is pending, or text of a statement
(`Loop.IsCommand`, `Loop.IsText`). `Loop.Takes` says what each of them leads to, and
`Loop.takes_take` that every line does so.

The loop looks at trimmed lines, and the dispatcher at texts as they are. They agree on what is a
meta-command as long as the pending text does not start with a backslash (`Loop.Plain`), which no
line changes (`Loop.Plain.take`).
-/

namespace CatalogShell

namespace Text

/-- A text that starts with no blank is trimmed at its end only. -/
theorem head?_trimChars {cs : List Char} {c : Char} (h : cs.head? = some c)
    (hc : isBlank c = false) : (trimChars cs).head? = some c := by
  obtain ⟨gap, tail, hcs, hgap, htail, -, -⟩ := exists_trimChars cs
  have hnot : isBlank c ≠ true := by simp [hc]
  cases gap with
  | cons g gap =>
    obtain rfl : g = c := by
      rw [hcs] at h
      simpa using h
    exact absurd (hgap g List.mem_cons_self) hnot
  | nil =>
    cases htrim : trimChars cs with
    | cons t ts =>
      rw [hcs, htrim] at h
      simpa using h
    | nil =>
      rw [hcs, htrim] at h
      exact absurd (htail c (List.mem_of_mem_head? h)) hnot

end Text

namespace Loop

variable (l : Loop) (line : String)

/-! ## Kinds of lines -/

/-- The words at which the shell quits. -/
def quitWords : List String := [".quit", ".exit", "\\q"]

/-- The line quits: it does so only while no statement is pending, like all commands. -/
def IsQuit : Prop := l.pending = "" ∧ Text.trim line ∈ quitWords

/-- The line changes the output format. -/
def IsToggle : Prop := l.pending = "" ∧ Text.trim line = ".json"

/-- The line is answered by the shell itself. -/
def IsNote : Prop := l.pending = "" ∧ Text.trim line ∈ [".help", ".clear"]

/-- The line is a meta-command. -/
def IsMeta : Prop :=
  l.pending = "" ∧ (Text.trim line).toList.head? = some '\\' ∧ Text.trim line ≠ "\\q"

/-- The line is read as a command. -/
def IsCommand : Prop :=
  l.pending = "" ∧ ((Text.trim line).toList.head? = some '\\' ∨
    Text.trim line ∈ [".quit", ".exit", ".help", ".json", ".clear"])

/-- The line belongs to a statement. -/
def IsText : Prop := Text.trim line ≠ "" ∧ ¬ l.IsCommand line

instance : Decidable (l.IsToggle line) := inferInstanceAs (Decidable (_ ∧ _))

instance : Decidable (l.IsText line) := inferInstanceAs (Decidable (_ ∧ ¬ (_ ∧ _)))

/-- The text is no meta-command for any dispatcher, and is sent as a statement. -/
def IsStatement (input : String) : Prop :=
  ∀ (g : Registry) (mode : PatternMode), g.dispatch mode input = pure .notCommand

theorem isStatement_iff {input : String} :
    IsStatement input ↔ input.toList.head? ≠ some '\\' := by
  constructor
  · intro h hhead
    obtain ⟨line, hline⟩ := CommandLine.exists_splits hhead
    have hdispatch := h {} .lenient
    simp only [Registry.dispatch, CommandLine.parse?_of_splits hline] at hdispatch
    cases hdispatch
  · intro h g mode
    simp only [Registry.dispatch, CommandLine.parse?_eq_none_iff.2 h]

/-- The text is a meta-command for every dispatcher, known or not. -/
def IsMetaCommand (input : String) : Prop :=
  ∀ {σ : Type} (g : Registry) (mode : PatternMode) (db : Database σ) (limit : Option Nat)
    (s : Session σ), (s.run db limit (g.dispatch mode input).run).result ≠ .ok .notCommand

theorem isMetaCommand_of_head? {input : String} (h : input.toList.head? = some '\\') :
    IsMetaCommand input := by
  intro σ g mode db limit s hresult
  exact (Registry.dispatched g mode db limit s input).notCommand_iff.1 hresult h

/-! ## Taking a line -/

/-- What a line of each kind leads to, and the loop after it. -/
inductive Takes : LineEffect → Loop → Prop where
  /-- A blank line says nothing. -/
  | blank (h : Text.trim line = "") : Takes (.print "") l
  | quit (h : l.IsQuit line) : Takes .quit l
  | toggle (h : l.IsToggle line) : Takes (.print "") { l with output := l.output.other }
  | note (h : l.IsNote line) (text : String) : Takes (.print text) l
  /-- A meta-command is executed alone and trimmed. -/
  | metaCommand (h : l.IsMeta line) : Takes (.execute (Text.trim line)) l
  /-- Text is added to the pending statement as it is, with a newline. -/
  | part (h : l.IsText line) (open_ : completes line = false) :
    Takes (.print "") { l with pending := l.pending ++ line ++ "\n" }
  /-- Text that ends with a semicolon completes the statement, which is executed. -/
  | whole (h : l.IsText line) (ends : completes line = true) :
    Takes (.execute (l.pending ++ line ++ "\n")) { l with pending := "" }

variable {l line}

theorem take_of_isText (h : l.IsText line) : l.take line = l.add line := by
  unfold take
  by_cases hpending : l.pending = ""
  · have hnot : ¬ ((Text.trim line).toList.head? = some '\\' ∨
        Text.trim line ∈ [".quit", ".exit", ".help", ".json", ".clear"]) :=
      fun hc => h.2 ⟨hpending, hc⟩
    simp only [List.mem_cons, List.not_mem_nil, or_false, not_or] at hnot
    obtain ⟨hhead, hquit, hexit, hhelp, hjson, hclear⟩ := hnot
    have hq : Text.trim line ≠ "\\q" := by
      intro hq
      rw [hq] at hhead
      exact hhead rfl
    simp only [h.1, hpending, ↓reduceIte, ne_eq, not_true_eq_false]
    split <;> simp_all
  · simp [h.1, hpending]

theorem take_of_isMeta (h : l.IsMeta line) : l.take line = (.execute (Text.trim line), l) := by
  obtain ⟨hpending, hhead, hq⟩ := h
  have hnonblank : Text.trim line ≠ "" := by
    intro hblank
    rw [hblank] at hhead
    cases hhead
  have hdot (word : String) (hword : word.toList.head? = some '.') : Text.trim line ≠ word := by
    rintro rfl
    rw [hword] at hhead
    cases hhead
  have hquit := hdot ".quit" rfl
  have hexit := hdot ".exit" rfl
  have hhelp := hdot ".help" rfl
  have hjson := hdot ".json" rfl
  have hclear := hdot ".clear" rfl
  unfold take
  simp only [hnonblank, hpending, ↓reduceIte, ne_eq, not_true_eq_false]
  split <;> simp_all

theorem take_of_isQuit (h : l.IsQuit line) : l.take line = (.quit, l) := by
  obtain ⟨hpending, hword⟩ := h
  simp only [quitWords, List.mem_cons, List.not_mem_nil, or_false] at hword
  unfold take
  rcases hword with hword | hword | hword <;> simp [hword, hpending]

theorem takes_take (l : Loop) (line : String) : l.Takes line (l.take line).1 (l.take line).2 := by
  by_cases hblank : Text.trim line = ""
  · have htake : l.take line = (.print "", l) := by simp [take, hblank]
    rw [htake]
    exact .blank hblank
  by_cases htext : l.IsText line
  · rw [take_of_isText htext, add]
    cases hends : completes line with
    | true => exact .whole htext hends
    | false => exact .part htext hends
  have hcommand : l.IsCommand line := by
    by_contra hnot
    exact htext ⟨hblank, hnot⟩
  by_cases hquit : l.IsQuit line
  · rw [take_of_isQuit hquit]
    exact .quit hquit
  obtain ⟨hpending, hhead | hword⟩ := hcommand
  · have hq : Text.trim line ≠ "\\q" := fun hq => hquit ⟨hpending, by simp [hq, quitWords]⟩
    have hmeta : l.IsMeta line := ⟨hpending, hhead, hq⟩
    rw [take_of_isMeta hmeta]
    exact .metaCommand hmeta
  simp only [List.mem_cons, List.not_mem_nil, or_false] at hword
  obtain hword | hword | hword | hword | hword := hword
  · exact absurd ⟨hpending, by simp [hword, quitWords]⟩ hquit
  · exact absurd ⟨hpending, by simp [hword, quitWords]⟩ hquit
  · have htake : l.take line = (.print helpText, l) := by simp [take, hword, hpending]
    rw [htake]
    exact .note ⟨hpending, by simp [hword]⟩ _
  · have htake : l.take line = (.print "", { l with output := l.output.other }) := by
      simp [take, hword, hpending]
    rw [htake]
    exact .toggle ⟨hpending, hword⟩
  · have htake : l.take line = (.print clearText, l) := by simp [take, hword, hpending]
    rw [htake]
    exact .note ⟨hpending, by simp [hword]⟩ _

/-- A line changes the output format only as a command that does so. -/
theorem output_take (l : Loop) (line : String) :
    (l.take line).2.output = if l.IsToggle line then l.output.other else l.output := by
  have htakes := l.takes_take line
  generalize (l.take line).1 = effect, (l.take line).2 = next at htakes
  cases htakes with
  | toggle h => rw [if_pos h]
  | blank h => rw [if_neg (by simp [IsToggle, h])]
  | quit h =>
    have hword := h.2
    rw [if_neg]
    rintro ⟨-, hjson⟩
    simp [hjson, quitWords] at hword
  | note h =>
    have hword := h.2
    rw [if_neg]
    rintro ⟨-, hjson⟩
    simp [hjson] at hword
  | metaCommand h =>
    have hhead := h.2.1
    rw [if_neg]
    rintro ⟨-, hjson⟩
    simp [hjson] at hhead
  | part h | whole h =>
    rw [if_neg]
    exact fun hjson => h.2 ⟨hjson.1, .inr (by simp [hjson.2])⟩

/-! ## The pending text -/

/-- The pending text does not start as a meta-command does. -/
def Plain (l : Loop) : Prop := l.pending.toList.head? ≠ some '\\'

/-- No line of text makes the pending text start with a backslash: the first one does not start with
one itself, and the others go behind it. -/
theorem Plain.head?_text (hl : l.Plain) (h : l.IsText line) :
    (l.pending ++ line ++ "\n").toList.head? ≠ some '\\' := by
  rw [String.append_assoc, String.toList_append]
  by_cases hpending : l.pending = ""
  · rw [hpending, String.toList_empty, List.nil_append, String.toList_append]
    cases hline : line.toList with
    | nil => decide
    | cons c cs =>
      rintro ⟨⟩
      refine h.2 ⟨hpending, .inl ?_⟩
      rw [Text.trim, String.toList_ofList]
      exact Text.head?_trimChars (by rw [hline]; rfl) (by decide)
  · have hcons : l.pending.toList ≠ [] := by simpa using hpending
    obtain ⟨c, cs, hcs⟩ := List.exists_cons_of_ne_nil hcons
    rw [Plain, hcs] at hl
    rwa [hcs]

theorem Plain.take (hl : l.Plain) (line : String) : (l.take line).2.Plain := by
  have htakes := l.takes_take line
  generalize (l.take line).1 = effect, (l.take line).2 = next at htakes
  cases htakes with
  | blank | quit | toggle | note | metaCommand => exact hl
  | part htext => exact hl.head?_text htext
  | whole => simp [Plain]

end Loop

end CatalogShell
