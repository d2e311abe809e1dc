import CatalogShell.Proofs.Shell.Run
import CatalogShell.Script
import Mathlib.Data.List.DropRight

/-!
# Statements over several lines

A statement is read line by line until a line ends with a semicolon. What is sent of it are its lines
as they were typed, joined with newlines, without the blanks around them and the semicolons at their
end, but without the lines that are blank (`Loop.statement_keeps_lines`). Blank lines between the first
line and the last one are the only part of a statement that is lost (`Loop.blank_line_lost`).
-/

namespace CatalogShell

/-! ## Texts between two lines -/

namespace Text

variable {cs : List Char}

/-- What is dropped at the end does not reach over a character that is kept. -/
theorem rdropWhile_append {p : Char → Bool} {front back : List Char} (h : ∃ c ∈ back, p c = false) :
    (front ++ back).rdropWhile p = front ++ back.rdropWhile p := by
  have hkept : back.reverse.dropWhile p ≠ [] := by
    rw [ne_eq, List.dropWhile_eq_nil_iff]
    intro hall
    obtain ⟨c, hc, hp⟩ := h
    simp [hall c (List.mem_reverse.2 hc)] at hp
  rw [List.rdropWhile, List.reverse_append, List.dropWhile_append]
  simp [hkept, List.rdropWhile]

theorem exists_notBlank {s : String} (h : trim s ≠ "") : ∃ c ∈ s.toList, isBlank c = false := by
  obtain ⟨gap, tail, hsplit, -, -, hhead, -⟩ := exists_trimChars s.toList
  cases htrim : trimChars s.toList with
  | nil => exact absurd (by rw [trim, htrim]) h
  | cons c cs =>
    rw [htrim] at hsplit hhead
    exact ⟨c, by rw [hsplit]; simp, hhead c rfl⟩

/-- Trimming does not reach over a line that is not blank. -/
theorem trimChars_between {front back : List Char} (hfront : ∃ c ∈ front, isBlank c = false)
    (hback : ∃ c ∈ back, isBlank c = false) (middle : List Char) :
    trimChars (front ++ middle ++ back) =
      front.dropWhile isBlank ++ middle ++ back.rdropWhile isBlank := by
  have hkept : front.dropWhile isBlank ≠ [] := by
    rw [ne_eq, List.dropWhile_eq_nil_iff]
    intro hall
    obtain ⟨c, hc, hblank⟩ := hfront
    simp [hall c hc] at hblank
  rw [trimChars, List.append_assoc, List.dropWhile_append]
  simp only [List.isEmpty_iff, hkept, ↓reduceIte]
  rw [← List.append_assoc]
  exact rdropWhile_append hback

/-- A newline at the end is trimmed. -/
theorem trimChars_newline (cs : List Char) : trimChars (cs ++ ['\n']) = trimChars cs := by
  rw [trimChars, List.dropWhile_append]
  split
  · next hempty =>
    rw [trimChars, List.isEmpty_iff.1 hempty]
    decide
  · exact List.rdropWhile_concat_pos _ _ _ (by decide)

end Text

namespace Shell

open Text (isBlank exists_notBlank rdropWhile_append)

/-- Between a first line and a last one that are not blank, a statement is sent as it was typed. -/
theorem exists_statement_between {first last : String} (hfirst : Text.trim first ≠ "")
    (hlast : Text.trim last ≠ "") : ∃ start finish : List Char, ∀ middle : String,
      (statement (first ++ middle ++ ("\n" ++ last))).toList =
        start ++ middle.toList ++ finish := by
  refine ⟨first.toList.dropWhile isBlank,
    ('\n' :: last.toList.rdropWhile isBlank).rdropWhile (· = ';'), fun middle => ?_⟩
  obtain ⟨c, hc, hblank⟩ := exists_notBlank hlast
  have hback : (['\n'] ++ last.toList).rdropWhile isBlank =
      ['\n'] ++ last.toList.rdropWhile isBlank :=
    rdropWhile_append ⟨c, hc, hblank⟩
  have htext : (first ++ middle ++ ("\n" ++ last)).toList =
      first.toList ++ middle.toList ++ (['\n'] ++ last.toList) := by
    simp
  rw [statement, String.toList_ofList, htext, Text.trimChars_between (exists_notBlank hfirst)
    ⟨c, List.mem_append_right _ hc, hblank⟩, hback]
  -- The semicolons at the end are those of the last line.
  exact rdropWhile_append ⟨'\n', List.mem_cons_self, by decide⟩

theorem statement_newline (text : String) : statement (text ++ "\n") = statement text := by
  have htext : (text ++ "\n").toList = text.toList ++ ['\n'] := by simp
  rw [statement, htext, Text.trimChars_newline, statement]

end Shell

namespace Loop

/-! ## The lines that are kept -/

/-- The lines that are not blank. -/
def kept (lines : List String) : List String := lines.filter fun line => Text.trim line ≠ ""

/-- Lines that are added to a first one. -/
def below (lines : List String) : String := String.join (lines.map ("\n" ++ ·))

variable {l : Loop} {first last : String} {inner init rest : List String}

theorem intercalate_eq_below (first last : String) (inner : List String) :
    "\n".intercalate (first :: (inner ++ [last])) = first ++ below inner ++ ("\n" ++ last) := by
  induction inner generalizing first with
  | nil => simp [below, String.append_assoc]
  | cons line inner ih =>
    rw [List.cons_append, String.intercalate_cons_cons, ih]
    simp [below, String.append_assoc]

theorem written_eq_intercalate {lines : List String} (h : lines ≠ []) :
    written lines = "\n".intercalate lines ++ "\n" := by
  induction lines with
  | nil => exact absurd rfl h
  | cons line lines ih =>
    cases lines with
    | nil => simp [written]
    | cons next lines =>
      have hrest := ih (List.cons_ne_nil _ _)
      simp only [written, List.map_cons, String.join_cons] at hrest ⊢
      rw [hrest, String.intercalate_cons_cons]
      simp [String.append_assoc]

@[simp] theorem below_cons (line : String) (lines : List String) :
    below (line :: lines) = "\n" ++ line ++ below lines := by
  simp [below]

theorem kept_cons (line : String) (lines : List String) :
    kept (line :: lines) = if Text.trim line = "" then kept lines else line :: kept lines := by
  by_cases h : Text.trim line = "" <;> simp [kept, h]

theorem length_below_kept_le (lines : List String) :
    (below (kept lines)).length ≤ (below lines).length := by
  induction lines with
  | nil => exact Nat.le_refl _
  | cons line lines ih =>
    rw [kept_cons]
    split <;> simp only [below_cons, String.length_append] <;> omega

/-- The text is the same without the blank lines exactly if there are none. -/
theorem below_kept_iff {lines : List String} :
    below (kept lines) = below lines ↔ ∀ line ∈ lines, Text.trim line ≠ "" := by
  induction lines with
  | nil => simp [kept]
  | cons line lines ih =>
    rw [kept_cons, List.forall_mem_cons]
    by_cases h : Text.trim line = ""
    · have hshorter : (below (kept lines)).length < (below (line :: lines)).length := by
        have hle := length_below_kept_le lines
        have hnewline : "\n".length = 1 := rfl
        simp only [below_cons, String.length_append]
        omega
      simp only [h, ↓reduceIte, ne_eq, not_true_eq_false, false_and, iff_false]
      exact fun heq => absurd (congrArg String.length heq) (Nat.ne_of_lt hshorter)
    · simp [h, ih]

/-! ## Reading a statement -/

/-- While a statement is pending, all lines but blank ones belong to it. -/
theorem isText_of_pending {line : String} (h : l.pending ≠ "") (hline : Text.trim line ≠ "") :
    l.IsText line :=
  ⟨hline, fun hcommand => h hcommand.1⟩

theorem trim_ne_of_completes {line : String} (h : completes line = true) : Text.trim line ≠ "" := by
  intro hblank
  simp [completes, hblank] at h

/-- A pending statement is executed with its last line, and nothing before that. -/
theorem executions_of_pending (h : l.pending ≠ "") (hopen : ∀ line ∈ inner, completes line = false)
    (hlast : completes last = true) (rest : List String) :
    l.executions (inner ++ last :: rest) =
      (l.pending ++ written (kept inner ++ [last]), l.output) ::
        { l with pending := "" }.executions rest := by
  induction inner generalizing l with
  | nil =>
    have htext := isText_of_pending h (trim_ne_of_completes hlast)
    simp [executions, take_of_isText htext, add, hlast, kept, String.append_assoc]
  | cons line inner ih =>
    rw [List.forall_mem_cons] at hopen
    by_cases hblank : Text.trim line = ""
    · have htake : l.take line = (.print "", l) := by simp [take, hblank]
      rw [List.cons_append, executions, htake, kept_cons, if_pos hblank]
      exact ih h hopen.2
    · have htext := isText_of_pending h hblank
      rw [List.cons_append, executions, take_of_isText htext, add, hopen.1, kept_cons,
        if_neg hblank]
      have hpending : l.pending ++ line ++ "\n" ≠ "" := by simp
      have hrest := @ih { l with pending := l.pending ++ line ++ "\n" } hpending hopen.2
      simpa [written, String.append_assoc] using hrest

theorem written_cons (line : String) (lines : List String) :
    written (line :: lines) = line ++ "\n" ++ written lines := by
  simp [written]

theorem kept_concat (h : Text.trim last ≠ "") : kept (init ++ [last]) = kept init ++ [last] := by
  simp [kept, h]

/-- Where no statement is pending, text up to a line that completes it is executed at once, and the
next line finds the loop as it was. -/
theorem executions_of_statement (h : l.pending = "")
    (hfirst : ∀ line ∈ (init ++ [last]).head?, l.IsText line)
    (hopen : ∀ line ∈ init, completes line = false) (hlast : completes last = true)
    (rest : List String) :
    l.executions (init ++ last :: rest) =
      (written (kept (init ++ [last])), l.output) :: l.executions rest := by
  have hsame : { l with pending := "" } = l := by rw [← h]
  rw [kept_concat (trim_ne_of_completes hlast)]
  cases init with
  | nil =>
    have htext : l.IsText last := hfirst last rfl
    rw [List.nil_append, executions, take_of_isText htext, add, hlast]
    simp [h, hsame, kept, written]
  | cons first inner =>
    have htext : l.IsText first := hfirst first rfl
    rw [List.forall_mem_cons] at hopen
    have hpending : first ++ "\n" ≠ "" := by simp
    have hrest := @executions_of_pending { l with pending := first ++ "\n" } last inner hpending
      hopen.2 hlast rest
    rw [List.cons_append, executions, take_of_isText htext, add, hopen.1, kept_cons,
      if_neg htext.1, List.cons_append, written_cons]
    simpa [h, hsame] using hrest

/-- Such text is no meta-command for any dispatcher. -/
theorem isStatement_written (h : l.pending = "") (htext : l.IsText first) (lines : List String) :
    IsStatement (written (first :: lines)) := by
  have hplain : l.Plain := by simp [Plain, h]
  have hhead := hplain.head?_text htext
  rw [h, String.empty_append] at hhead
  rw [isStatement_iff, written_cons, String.toList_append, List.head?_append]
  cases hchars : (first ++ "\n").toList with
  | nil => simp at hchars
  | cons c cs => simpa [hchars] using hhead

end Loop

/-! ## What is sent -/

namespace Shell

variable {σ : Type}

/-- A statement is sent as the only query. -/
theorem queries_inquiry {input : String} (h : Loop.IsStatement input) (g : Registry)
    (mode : PatternMode) (db : Database σ) (limit : Option Nat) (d : σ) :
    (Session.run db limit (inquiry g mode input).run { database := d }).calls.filterMap
      Call.query? = [statementQuery input] := by
  have hinquiry : inquiry g mode input =
      Lookup.ask (statementQuery input) >>= fun t => pure (.rows t) := by
    rw [inquiry, h g mode]
    rfl
  have hactive : ({ database := d } : Session σ).cancelled = false := rfl
  rw [hinquiry, Session.run_bind_pure, Session.run_ask]
  simp only [Session.calls_send _ hactive, Exchange.filterMap_query?_calls]

theorem sql_statementQuery (input : String) : (statementQuery input).sql = statement input := by
  simp [statementQuery, Query.ofText, Query.sql, Fragment.sql]

end Shell

namespace Loop

/-- Without the blank lines a statement is the same exactly if there are none. -/
theorem statement_kept_iff {init : List String} {last : String}
    (hfirst : ∀ line ∈ (init ++ [last]).head?, Text.trim line ≠ "") (hlast : Text.trim last ≠ "") :
    Shell.statement ("\n".intercalate (kept (init ++ [last]))) =
        Shell.statement ("\n".intercalate (init ++ [last])) ↔
      ∀ line ∈ init ++ [last], Text.trim line ≠ "" := by
  rw [kept_concat hlast]
  cases init with
  | nil => simp [kept, hlast]
  | cons first inner =>
    have hfirst : Text.trim first ≠ "" := hfirst first rfl
    obtain ⟨start, finish, hbetween⟩ := Shell.exists_statement_between hfirst hlast
    rw [kept_cons, if_neg hfirst, List.cons_append, List.cons_append, intercalate_eq_below,
      intercalate_eq_below, ← String.toList_inj, hbetween, hbetween, List.append_left_inj,
      List.append_right_inj, String.toList_inj, below_kept_iff, List.forall_mem_cons,
      List.forall_mem_append, List.forall_mem_singleton]
    exact ⟨fun hinner => ⟨hfirst, hinner, hlast⟩, fun hall => hall.2.1⟩

/-- The lines of a statement are read from one that is text, with no statement pending, up to the
first that ends with a semicolon. They are executed at once. For every database, one query is sent,
and it has no parameters. Its text are the lines that are not blank, joined with newlines, without
the blanks around them and then without the semicolons at the end. That is the statement as it was
typed exactly if none of the lines is blank. -/
theorem statement_keeps_lines {l : Loop} {init : List String} {last : String} (h : l.pending = "")
    (hfirst : ∀ line ∈ (init ++ [last]).head?, l.IsText line)
    (hopen : ∀ line ∈ init, completes line = false) (hlast : completes last = true) :
    let lines := init ++ [last]
    let sent := Shell.statement ("\n".intercalate (lines.filter fun line => Text.trim line ≠ ""))
    (∃ input, (∀ rest, l.executions (lines ++ rest) = (input, l.output) :: l.executions rest) ∧
      ∀ {σ : Type} (g : Registry) (mode : PatternMode) (db : Database σ) (limit : Option Nat)
        (d : σ), ∃ q,
        (Session.run db limit (Shell.inquiry g mode input).run { database := d }).calls.filterMap
          Call.query? = [q] ∧
        q.label = "user.sql" ∧ q.params = [] ∧ q.sql = sent) ∧
    (sent = Shell.statement ("\n".intercalate lines) ↔ ∀ line ∈ lines, Text.trim line ≠ "") := by
  intro lines sent
  have hlines : kept lines = lines.filter fun line => Text.trim line ≠ "" := rfl
  have hnonblank := trim_ne_of_completes hlast
  refine ⟨⟨written (kept lines), fun rest => ?_, fun g mode db limit d => ?_⟩, ?_⟩
  · rw [List.append_assoc, List.singleton_append]
    exact executions_of_statement h hfirst hopen hlast rest
  · obtain ⟨first, others, hkept, htext⟩ : ∃ first others, kept lines = first :: others ∧
        l.IsText first := by
      cases init with
      | nil => exact ⟨last, [], by simp [lines, kept, hnonblank], hfirst last rfl⟩
      | cons first inner =>
        have htext : l.IsText first := hfirst first rfl
        refine ⟨first, kept (inner ++ [last]), ?_, htext⟩
        simp only [lines, List.cons_append, kept_cons, if_neg htext.1]
    have hstatement := isStatement_written h htext others
    rw [← hkept] at hstatement
    refine ⟨_, Shell.queries_inquiry hstatement g mode db limit d, rfl, rfl, ?_⟩
    rw [Shell.sql_statementQuery, written_eq_intercalate (by simp [hkept]),
      Shell.statement_newline, hlines]
  · exact statement_kept_iff (fun line hline => (hfirst line hline).1) hnonblank

theorem statement_keeps_lines_body :
    let lines := ["do $$", "  \\d;--", "$$ ;; "]
    (∀ line ∈ lines.head?, ({} : Loop).IsText line) ∧ completes "$$ ;; " = true ∧
    ∃ input, ({} : Loop).executions (lines ++ ["\\q"]) = [(input, .table)] ∧
      ∀ d : Script, ∃ q, (Session.run Script.database none
        (Shell.inquiry .builtin .strict input).run { database := d }).calls.filterMap
          Call.query? = [q] ∧ q.sql = "do $$\n  \\d;--\n$$ " := by
  intro lines
  have hfirst : ∀ line ∈ (["do $$", "  \\d;--"] ++ ["$$ ;; "]).head?, ({} : Loop).IsText line := by
    rintro line ⟨⟩
    decide
  have hopen : ∀ line ∈ ["do $$", "  \\d;--"], completes line = false := by decide
  have hlast : completes "$$ ;; " = true := by decide
  obtain ⟨⟨input, hexecutions, hsent⟩, -⟩ := statement_keeps_lines rfl hfirst hopen hlast
  refine ⟨hfirst, hlast, input, hexecutions ["\\q"], fun d => ?_⟩
  obtain ⟨q, hqueries, -, -, hsql⟩ := hsent .builtin .strict Script.database none d
  exact ⟨q, hqueries, hsql.trans (by decide)⟩

/-- The blank line in the literal is lost. -/
theorem blank_line_lost :
    let lines := ["select 'a", "", "b';"]
    (∀ line ∈ lines.head?, ({} : Loop).IsText line) ∧ lines.map completes = [false, false, true] ∧
    ({} : Loop).executions lines = [("select 'a\nb';\n", .table)] ∧
    (Shell.statementQuery "select 'a\nb';\n").sql = "select 'a\nb'" ∧
    Shell.statement ("\n".intercalate lines) = "select 'a\n\nb'" := by
  decide

end Loop

end CatalogShell
