import CatalogShell.Proofs.Describe.Rows
import CatalogShell.Proofs.Text.Search
import Mathlib.Data.List.Induction

/-!
# Rules and triggers by firing mode

Two sections of a footer file the rows of their answers by firing mode (`FiringSection`). Filing one
more entry adds it at the end of its group (`Section.fileAll_concat`), so that a group is the rows
with its code, in order (`Section.get_fileAll`).

* `FiringGroups.FiledFrom`: what it means that groups hold what a list of rows says.
* `Section.filed_or_badCell`: a section whose query was answered gives groups filed from the rows, or
  blames a cell of one of them.
* `ObjectRef.describe_files_entries`: so it is for both sections, and what a report shows has been
  filed from the answer to the section's query.
-/

namespace CatalogShell

open Text (after? FollowsFirst)

/-! ## What belongs into a group -/

/-- The code of a mode in the catalog. -/
def FiringMode.code : FiringMode → String
  | enabled => "O"
  | disabled => "D"
  | always => "A"
  | replica => "R"

theorem FiringMode.ofCode?_eq_some_iff {c : String} {mode : FiringMode} :
    ofCode? c = some mode ↔ c = mode.code := by
  constructor
  · intro h
    unfold ofCode? at h
    split at h <;> cases h <;> rfl
  · rintro rfl
    cases mode <;> rfl

theorem FiringMode.ofCode?_eq_none_iff {c : String} :
    ofCode? c = none ↔ c ∉ ["O", "D", "A", "R"] := by
  unfold ofCode?
  split <;> simp_all

/-- Filing adds one entry. -/
theorem FiringGroups.size_file (g : FiringGroups) (mode : FiringMode) (entry : String) :
    (g.file mode entry).size = g.size + 1 := by
  cases mode <;> simp [file, size] <;> omega

/-- The cell holds a text or NULL. -/
def Row.HoldsText (row : Row) (column : Nat) : Prop :=
  row.get? column = some .null ∨ ∃ s, row.get? column = some (.text s)

/-- The groups hold what the rows say. `Shows definition entry` tells how a definition, here the
second cell of a row, is shown; the third cell is the code. -/
structure FiringGroups.FiledFrom (g : FiringGroups) (rows : List Row)
    (Shows : String → String → Prop) : Prop where
  /-- Definitions and codes are texts or NULL. -/
  readable : ∀ row ∈ rows, row.HoldsText 1 ∧ row.HoldsText 2
  /-- A group is the definitions of the rows with its code, in the order of the rows. -/
  get : ∀ mode, List.Forall₂ (fun row entry => Shows ((row.textAt 1).getD "") entry)
    (rows.filter fun row => row.textAt 2 = some mode.code) (g.get mode)
  /-- There is an entry for each row with a code that is known. -/
  size : g.size = rows.countP fun row => row.textAt 2 ∈ ["O", "D", "A", "R"].map some

/-- A trigger is shown by what follows the first ` TRIGGER ` of its definition, and by all of it if
there is none. -/
def ShowsTrigger (definition entry : String) : Prop :=
  FollowsFirst " TRIGGER ".toList definition.toList entry.toList ∨
    (¬ " TRIGGER ".toList <:+: definition.toList ∧ entry = definition)

theorem Section.showsTrigger_triggerBody (definition : String) :
    ShowsTrigger definition (triggerBody definition) := by
  unfold triggerBody
  split
  · next body h =>
    have hbody : (String.ofList body).toList = body := String.toList_ofList
    left
    rw [hbody]
    exact Text.after?_eq_some_iff.1 h
  · next h => exact .inr ⟨Text.after?_eq_none_iff.1 h, rfl⟩

/-! ## Reading rows -/

namespace Row

variable {row : Row} {label : String} {column : Nat}

theorem textAt_of_text?_eq_ok {o : Option String} (h : row.text? label column = .ok o) :
    row.HoldsText column ∧ row.textAt column = o := by
  rw [text?_eq_ok] at h
  refine ⟨?_, Column.textAt_of_get? h⟩
  cases o with
  | none => exact .inl h
  | some s => exact .inr ⟨s, h⟩

theorem not_holdsText_of_text?_eq_error {e : Failure} (h : row.text? label column = .error e) :
    ¬ row.HoldsText column ∧ e = .badCell label column "text" := by
  obtain ⟨rfl, hnone | ⟨v, hv, hnull, hread⟩⟩ := nullable_eq_error.1 h
  · simp [HoldsText, hnone]
  · refine ⟨?_, rfl⟩
    rintro (hcell | ⟨s, hcell⟩)
    · obtain rfl : v = .null := Option.some.inj (hv.symm.trans hcell)
      cases hnull
    · obtain rfl : v = .text s := Option.some.inj (hv.symm.trans hcell)
      cases hread

/-- The definition and the code of a rule or a trigger. NULL counts as no text. -/
def firing (row : Row) : String × String := ((row.textAt 1).getD "", (row.textAt 2).getD "")

end Row

namespace Section

variable {label : String} {row : Row} {rows : List Row} {entries : List (String × String)}
  {shape : String → String} {Shows : String → String → Prop}

theorem firing_of_firingRow_eq_ok {e : String × String} (h : firingRow label row = .ok e) :
    (row.HoldsText 1 ∧ row.HoldsText 2) ∧ e = row.firing := by
  simp only [firingRow, Reading.bind_eq_ok, Reading.pure_eq_ok] at h
  obtain ⟨definition, h1, code, h2, rfl⟩ := h
  obtain ⟨hdefinition, rfl⟩ := Row.textAt_of_text?_eq_ok h1
  obtain ⟨hcode, rfl⟩ := Row.textAt_of_text?_eq_ok h2
  exact ⟨⟨hdefinition, hcode⟩, rfl⟩

theorem badCell_of_firingRow_eq_error {e : Failure} (h : firingRow label row = .error e) :
    ∃ column ∈ [1, 2], ¬ row.HoldsText column ∧ e = .badCell label column "text" := by
  obtain h1 | ⟨definition, -, h⟩ := Reading.bind_eq_error.1 h
  · exact ⟨1, by simp, Row.not_holdsText_of_text?_eq_error h1⟩
  · obtain h2 | ⟨code, -, h⟩ := Reading.bind_eq_error.1 h
    · exact ⟨2, by simp, Row.not_holdsText_of_text?_eq_error h2⟩
    · cases h

theorem eq_map_firing_of_mapM_eq_ok (h : rows.mapM (firingRow label) = .ok entries) :
    (∀ row ∈ rows, row.HoldsText 1 ∧ row.HoldsText 2) ∧ entries = rows.map Row.firing := by
  have hread := Reading.mapM_eq_ok.1 h
  constructor
  · intro row hrow
    obtain ⟨e, he⟩ := Reading.exists_of_mapM_eq_ok h hrow
    exact (firing_of_firingRow_eq_ok he).1
  · have heq : List.Forall₂ (fun row e => e = row.firing) rows entries :=
      hread.imp fun _ _ he => (firing_of_firingRow_eq_ok he).2
    rw [← List.forall₂_eq_eq_eq, List.forall₂_map_right_iff]
    exact heq.flip

/-! ## Filing -/

/-- One more entry goes to the end of its group, or nowhere. -/
theorem fileAll_concat (shape : String → String) (entries : List (String × String))
    (e : String × String) : fileAll shape (entries ++ [e]) =
      match FiringMode.ofCode? e.2 with
      | some mode => (fileAll shape entries).file mode (shape e.1)
      | none => fileAll shape entries := by
  rw [fileAll, List.foldl_append]
  rfl

/-- A group is the entries with its code, in order. -/
theorem get_fileAll (shape : String → String) (entries : List (String × String))
    (mode : FiringMode) : (fileAll shape entries).get mode =
      (entries.filter fun e => e.2 = mode.code).map fun e => shape e.1 := by
  induction entries using List.reverseRecOn with
  | nil => cases mode <;> rfl
  | append_singleton entries e ih =>
    rw [fileAll_concat, List.filter_append, List.map_append, ← ih]
    cases hcode : FiringMode.ofCode? e.2 with
    | none =>
      have hne : e.2 ≠ mode.code := fun h => by
        rw [FiringMode.ofCode?_eq_some_iff.2 h] at hcode
        cases hcode
      simp [hne]
    | some mode' =>
      have hiff : e.2 = mode.code ↔ mode = mode' := by
        rw [← FiringMode.ofCode?_eq_some_iff, hcode, Option.some.injEq, eq_comm]
      rw [FiringGroups.get_file, List.filter_singleton]
      split
      · next hmode => simp [hiff.2 hmode]
      · next hmode => simp [mt hiff.1 hmode]

theorem size_fileAll (shape : String → String) (entries : List (String × String)) :
    (fileAll shape entries).size = entries.countP fun e => e.2 ∈ ["O", "D", "A", "R"] := by
  induction entries using List.reverseRecOn with
  | nil => rfl
  | append_singleton entries e ih =>
    rw [fileAll_concat, List.countP_append, ← ih, List.countP_singleton]
    cases hcode : FiringMode.ofCode? e.2 with
    | none => simp only [FiringMode.ofCode?_eq_none_iff.1 hcode, decide_false, Bool.false_eq_true,
        ↓reduceIte, Nat.add_zero]
    | some mode =>
      have hknown : e.2 ∈ ["O", "D", "A", "R"] := by
        rw [FiringMode.ofCode?_eq_some_iff.1 hcode]
        cases mode <;> decide
      simp only [FiringGroups.size_file, hknown, decide_true, ↓reduceIte]

/-- Entries that have been read from rows are filed from them. -/
theorem filedFrom_fileAll (h : rows.mapM (firingRow label) = .ok entries)
    (hshape : ∀ definition, Shows definition (shape definition)) :
    (fileAll shape entries).FiledFrom rows Shows := by
  obtain ⟨hreadable, rfl⟩ := eq_map_firing_of_mapM_eq_ok h
  refine ⟨hreadable, fun mode => ?_, ?_⟩
  · have hcode : (fun e : String × String => decide (e.2 = mode.code)) ∘ Row.firing =
        fun row => decide (row.textAt 2 = some mode.code) := by
      funext row
      have hne : mode.code ≠ "" := by cases mode <;> decide
      simp [Row.firing, Column.getD_eq_iff hne]
    rw [get_fileAll, List.filter_map, hcode, List.map_map, List.forall₂_map_right_iff]
    exact List.forall₂_same.2 fun row _ => hshape _
  · rw [size_fileAll, List.countP_map]
    congr 1
    funext row
    cases htext : row.textAt 2 <;> simp [Row.firing, htext]

/-! ## One section -/

variable {σ : Type} {db : Database σ} {limit : Option Nat} {s : Session σ} {q : Query}
  {t : ResultSet}

theorem result_rowsOf {α : Type} (read : Row → Except Failure α)
    (h : (s.send db limit q).result = .ok t) :
    (s.run db limit (rowsOf q read).run).result = t.rows.mapM read := by
  have hask : (s.run db limit (Lookup.ask q).run).result = .ok t := by rw [Session.run_ask, h]
  rw [rowsOf, Session.run_bind_ok _ hask]
  rfl

theorem result_firingGroups (shape : String → String) (h : (s.send db limit q).result = .ok t) :
    (s.run db limit (firingGroups q shape).run).result =
      (t.rows.mapM (firingRow q.label)).map (fileAll shape) := by
  rw [firingGroups, Session.run_bind_pure, result_rowsOf _ h]

/-- A section whose query was answered gives groups, or blames a cell. -/
theorem filed_or_badCell (hshape : ∀ definition, Shows definition (shape definition))
    (h : (s.send db limit q).result = .ok t) :
    let result := (s.run db limit (firingGroups q shape).run).result
    (∃ g, result = .ok g ∧ g.FiledFrom t.rows Shows) ∨
      ∃ row ∈ t.rows, ∃ column ∈ [1, 2], ¬ row.HoldsText column ∧
        result = .error (.badCell q.label column "text") := by
  intro result
  have hresult : result = _ := result_firingGroups shape h
  cases hread : t.rows.mapM (firingRow q.label) with
  | ok entries =>
    rw [hread] at hresult
    exact .inl ⟨_, hresult, filedFrom_fileAll hread hshape⟩
  | error e =>
    rw [hread] at hresult
    obtain ⟨row, hrow, he⟩ := Reading.exists_of_mapM_eq_error hread
    obtain ⟨column, hcolumn, hcell, rfl⟩ := badCell_of_firingRow_eq_error he
    exact .inr ⟨row, hrow, column, hcolumn, hcell, hresult⟩

end Section

/-! ## Both sections -/

/-- The sections whose entries are filed by firing mode. -/
inductive FiringSection where
  | rules
  | triggers

namespace FiringSection

def step : FiringSection → DescribeStep
  | rules => .rules
  | triggers => .triggers

def query : FiringSection → Oid → Query
  | rules => SectionQuery.rules
  | triggers => SectionQuery.triggers

/-- What is asked for a relation. -/
def lookup (x : FiringSection) (oid : Oid) : Lookup FiringGroups :=
  match x with
  | rules => Section.firingGroups (SectionQuery.rules oid) id
  | triggers => Section.firingGroups (SectionQuery.triggers oid) Section.triggerBody

/-- Where a footer has the entries. -/
def groups : FiringSection → Footer → FiringGroups
  | rules => Footer.rules
  | triggers => Footer.triggers

/-- How a definition is shown. -/
def Shows : FiringSection → String → String → Prop
  | rules => fun definition entry => entry = definition
  | triggers => ShowsTrigger

theorem lookup_eq (x : FiringSection) (oid : Oid) : ∃ shape,
    x.lookup oid = Section.firingGroups (x.query oid) shape ∧
      ∀ definition, x.Shows definition (shape definition) := by
  cases x with
  | rules => exact ⟨id, rfl, fun _ => rfl⟩
  | triggers => exact ⟨_, rfl, Section.showsTrigger_triggerBody⟩

theorem label_query (x : FiringSection) (oid : Oid) : (x.query oid).label = x.step.label := by
  cases x <;> rfl

open Lookup (Gives)

theorem gives_of_gives_gather (x : FiringSection) {R : Query → Answer → Prop} {info : TableInfo}
    {schema : String} {p : Section.Parts} (verbose : Bool) (definition : Option String)
    (h : Gives R (Section.gather info schema) p) :
    Gives R (Section.onlyIf (info.planFacts.takes verbose x.step) {} (x.lookup info.oid))
      (x.groups (p.assemble info verbose definition)) := by
  obtain ⟨-, hrules, htriggers⟩ := Section.gives_of_gives_gather verbose h
  cases x with
  | rules => exact hrules
  | triggers => exact htriggers

end FiringSection

namespace ObjectRef

/-- For both sections and any rows: if the definition and the code of each row are texts or NULL, the
section gives one group for each mode, with the definitions of the rows with its code in order, and
nothing of any other row; otherwise it fails at such a cell. A report has what the rows of the answer
give. -/
theorem describe_files_entries {σ : Type} (db : Database σ) (limit : Option Nat) (s : Session σ)
    (o : ObjectRef) (verbose : Bool) (x : FiringSection) :
    (∀ (s' : Session σ) t, (s'.send db limit (x.query o.oid)).result = .ok t →
      let result := (s'.run db limit (x.lookup o.oid).run).result
      (∃ g, result = .ok g ∧ g.FiledFrom t.rows x.Shows) ∨
        ∃ row ∈ t.rows, ∃ column ∈ [1, 2], ¬ row.HoldsText column ∧
          result = .error (.badCell x.step.label column "text")) ∧
    ∀ r t, (s.run db limit (o.describe verbose).run).result = .ok r →
      answerTo? x.step.label (s.exchanges db limit (o.describe verbose).run) = some (.ok t) →
      (x.groups r.footer).FiledFrom t.rows x.Shows := by
  constructor
  · intro s' t h
    obtain ⟨shape, hlookup, hshape⟩ := x.lookup_eq o.oid
    rw [hlookup, ← x.label_query o.oid]
    exact Section.filed_or_badCell hshape h
  · intro r t h ht
    obtain ⟨info, definition, parts, hinfo, hparts, hfooter⟩ := exists_parts_of_run h
    have hgives := x.gives_of_gives_gather verbose definition hparts
    obtain ⟨shape, hlookup, hshape⟩ := x.lookup_eq info.oid
    rw [hlookup] at hgives
    obtain ⟨entries, hread, hgroups⟩ := exists_read_of_gives hinfo (x.label_query _) ht hgives
    rw [hfooter, hgroups]
    exact Section.filedFrom_fileAll hread hshape

end ObjectRef

/-- Triggers with all codes, one that is unknown, and without a definition or a code. -/
def Row.manyTriggers : List Row := [
  ⟨[.text "a", .text "CREATE TRIGGER a AFTER INSERT ON t", .text "O"]⟩,
  ⟨[.text "b", .null, .text "D"]⟩,
  ⟨[.text "c", .text "CREATE CONSTRAINT TRIGGER \"the TRIGGER c\" AFTER INSERT ON t", .text "O"]⟩,
  ⟨[.text "d", .text "CREATE TRIGGER d AFTER INSERT ON t", .null]⟩,
  ⟨[.text "e", .text "CREATE TRIGGER e AFTER INSERT ON t", .text "X"]⟩,
  ⟨[.text "f", .text "trigger f", .text "A"]⟩]

/-- A database with a table that has the triggers. -/
def Script.triggered : Script := .ofRows [
  ("describe.table_info", [⟨[.integer 0, .text "r", .boolean false, .boolean false, .boolean true,
    .null, .null, .null, .text "p", .boolean false]⟩]),
  ("describe.triggers", Row.manyTriggers)]

/-- The plain description of the table. -/
def Report.triggered : Report where
  schema := "public"
  name := "t"
  kind := .table
  headers := ["Column", "Type", "Modifiers"]
  rows := []
  footer := {
    triggers := {
      enabled := ["a AFTER INSERT ON t", "\"the TRIGGER c\" AFTER INSERT ON t"]
      disabled := [""]
      always := ["trigger f"] } }

/-- A rule whose code is a number. -/
def Row.badRule : Row :=
  ⟨[.text "a", .text "CREATE RULE a AS ON INSERT TO t DO INSTEAD NOTHING", .integer 1]⟩

/-- A database with such a rule. -/
def Script.badRule : Script := .ofRows [("describe.rules", [.badRule])]

theorem ObjectRef.describe_files_entries_triggered :
    let o : ObjectRef := ⟨7, "public", "t", .table⟩
    let s : Session Script := ⟨.triggered, false⟩
    let s' : Session Script := ⟨.badRule, false⟩
    (s.run Script.database none (o.describe false).run).result = .ok .triggered ∧
    answerTo? DescribeStep.triggers.label (s.exchanges Script.database none (o.describe false).run) =
      some (.ok ⟨[], Row.manyTriggers⟩) ∧
    Report.triggered.footer.triggers.FiledFrom Row.manyTriggers ShowsTrigger ∧
    (s'.send Script.database none (SectionQuery.rules 7)).result = .ok ⟨[], [.badRule]⟩ ∧
    ∃ row ∈ [Row.badRule], ∃ column ∈ [1, 2], ¬ row.HoldsText column ∧
      (s'.run Script.database none (FiringSection.rules.lookup 7).run).result =
        .error (.badCell "describe.rules" column "text") := by
  intro o s s'
  have hrun : (s.run Script.database none (o.describe false).run).result = .ok .triggered := by
    decide +kernel
  have hanswer : answerTo? DescribeStep.triggers.label
      (s.exchanges Script.database none (o.describe false).run) =
        some (.ok ⟨[], Row.manyTriggers⟩) := by decide +kernel
  have htriggers := (describe_files_entries Script.database none s o false .triggers).2
  have hrules := (describe_files_entries Script.database none s o false .rules).1 s' _ rfl
  refine ⟨hrun, hanswer, htriggers .triggered ⟨[], Row.manyTriggers⟩ hrun hanswer, rfl,
    hrules.resolve_left ?_⟩
  rintro ⟨g, -, hfiled⟩
  obtain hnull | ⟨code, hcode⟩ := (hfiled.readable .badRule List.mem_cons_self).2
  · cases hnull
  · cases hcode

end CatalogShell
