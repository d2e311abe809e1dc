import CatalogShell.Proofs.Describe.Rows
import CatalogShell.Proofs.Pattern.Identifier
import CatalogShell.Proofs.Text.Search

/-!
# The list of indexes

The entry of an index shows what its definition says behind the keyword `USING`: the method, the
columns and the rest. The keyword is found as the first ` USING ` of the text, also inside a quoted
name.

* `Sql.IndexDefinition.IsText`: the texts that define an index. A name is written bare or between
  double quotes, so that an index has several.
* `Sql.IndexDefinition.after?_using_iff`: what is found is what stands behind the keyword exactly if
  no name in front of it contains the keyword with its blanks.
* `ObjectRef.describe_lists_indexes`: in every report there is an entry for each row of the answer,
  which is `Row.indexLine` of the row and of what was found.
-/

namespace CatalogShell

open Text (isBare isBarePart doubleQuotes after? FollowsFirst)

/-! ## Definitions of indexes -/

namespace Sql

/-- A name as a statement may write it: bare where it may stand so, or between double quotes. -/
inductive Writes (name : String) : String → Prop where
  | bare (h : isBare name.toList = true) : Writes name name
  | quoted : Writes name ("\"" ++ String.ofList (doubleQuotes name.toList) ++ "\"")

/-- Names with dots between them. -/
inductive WritesPath : List String → String → Prop where
  | one {name text : String} (h : Writes name text) : WritesPath [name] text
  | dot {name text : String} {names : List String} {rest : String} (h : Writes name text)
      (hrest : WritesPath names rest) : WritesPath (name :: names) (text ++ "." ++ rest)

/-- What the definition of an index says: `tail` begins with the access method. -/
structure IndexDefinition where
  unique : Bool
  only : Bool
  name : String
  /-- The table's name, perhaps after that of its schema. -/
  table : List String
  tail : String

namespace IndexDefinition

/-- What stands before the name of the index. -/
def opening (i : IndexDefinition) : String :=
  if i.unique then "CREATE UNIQUE INDEX " else "CREATE INDEX "

/-- What stands between the names of the index and of its table. -/
def joint (i : IndexDefinition) : String := if i.only then " ON ONLY " else " ON "

/-- The text defines the index. -/
def IsText (i : IndexDefinition) (text : String) : Prop :=
  ∃ name table, Writes i.name name ∧ WritesPath i.table table ∧
    text = i.opening ++ name ++ i.joint ++ table ++ " USING " ++ i.tail

end IndexDefinition

/-! ## Where the keyword occurs -/

/-- The piece has no quote, no dot and no character of bare names. -/
structure Apart (piece : List Char) : Prop where
  ne_nil : piece ≠ []
  quote : '"' ∉ piece
  dot : '.' ∉ piece
  bare : ∀ c ∈ piece, isBarePart c = false

theorem apart_using : Apart " USING ".toList where
  ne_nil := by decide
  quote := by decide
  dot := by decide
  bare := by simp [isBarePart]

variable {piece a b : List Char} {name text : String} {names : List String}

/-- Such a piece occurs in a written name if it occurs in the name, and not across its ends. -/
theorem Apart.infix_writes_iff (hp : Apart piece) (h : Writes name text) :
    piece <:+: a ++ (text.toList ++ b) ↔
      piece <:+: a ∨ piece <:+: name.toList ∨ piece <:+: b := by
  cases h with
  | bare h =>
    have hparts := Text.isBarePart_of_isBare h
    have hfence : ∀ c ∈ name.toList, c ∉ piece := fun c hc hmem => by
      cases (hparts c hc).symm.trans (hp.bare c hmem)
    have hname : ¬ piece <:+: name.toList := fun hoccurs => by
      obtain ⟨c, hc⟩ := List.exists_mem_of_ne_nil piece hp.ne_nil
      exact hfence c (hoccurs.subset hc) hc
    have hne : name.toList ≠ [] := by
      intro hnil
      rw [hnil] at h
      cases h
    rw [Text.infix_fenced_iff hne hfence, or_iff_right hname]
  | quoted =>
    have htext : a ++ (("\"" ++ String.ofList (doubleQuotes name.toList) ++ "\"").toList ++ b) =
        a ++ '"' :: (doubleQuotes name.toList ++ '"' :: b) := by simp
    rw [htext, Text.infix_separated_iff hp.quote, Text.infix_separated_iff hp.quote,
      Text.infix_doubleQuotes_iff hp.quote]

theorem Apart.infix_writesPath_iff (hp : Apart piece) (h : WritesPath names text) :
    piece <:+: a ++ (text.toList ++ b) ↔
      piece <:+: a ∨ (∃ name ∈ names, piece <:+: name.toList) ∨ piece <:+: b := by
  induction h generalizing a with
  | one h => simp [hp.infix_writes_iff h]
  | @dot name text names rest h _ ih =>
    have htext : a ++ ((text ++ "." ++ rest).toList ++ b) =
        a ++ (text.toList ++ ([] ++ '.' :: (rest.toList ++ b))) := by simp
    have hrest : piece <:+: rest.toList ++ b ↔
        (∃ name ∈ names, piece <:+: name.toList) ∨ piece <:+: b := by
      have hnil := ih (a := [])
      rwa [List.nil_append, List.infix_nil, or_iff_right hp.ne_nil] at hnil
    rw [htext, hp.infix_writes_iff h, Text.infix_separated_iff hp.dot, List.infix_nil,
      or_iff_right hp.ne_nil, hrest, List.exists_mem_cons_iff, or_assoc]

namespace IndexDefinition

variable {i : IndexDefinition}

/-- What follows the first keyword is the tail of the definition, unless a name contains the
keyword. -/
theorem after?_using_iff (h : i.IsText text) :
    after? " USING ".toList text.toList = some i.tail.toList ↔
      ∀ name ∈ i.name :: i.table, ¬ " USING ".toList <:+: name.toList := by
  obtain ⟨name, table, hname, htable, rfl⟩ := h
  have htext : (i.opening ++ name ++ i.joint ++ table ++ " USING " ++ i.tail).toList =
      (i.opening.toList ++ (name.toList ++ (i.joint.toList ++ table.toList))) ++
        (" USING ".toList ++ i.tail.toList) := by simp
  have hfront : (i.opening.toList ++ (name.toList ++ (i.joint.toList ++ table.toList))) ++
        " USING ".toList.dropLast =
      i.opening.toList ++ (name.toList ++ (i.joint.toList ++ (table.toList ++ " USING".toList))) := by
    simp
  -- The words of the statement do not contain the keyword with both its blanks.
  have hopening : ¬ " USING ".toList <:+: i.opening.toList := by
    unfold opening
    split <;> decide
  have hjoint : ¬ " USING ".toList <:+: i.joint.toList := by
    unfold joint
    split <;> decide
  have hend : ¬ " USING ".toList <:+: " USING".toList := by decide
  rw [htext, Text.after?_append_iff _ _ apart_using.ne_nil, hfront,
    apart_using.infix_writes_iff hname, apart_using.infix_writesPath_iff htable]
  simp only [hopening, hjoint, hend, false_or, or_false, not_or, not_exists, not_and,
    List.forall_mem_cons]

/-- The keyword occurs in every definition. -/
theorem exists_after?_using (h : i.IsText text) :
    ∃ tail, after? " USING ".toList text.toList = some tail := by
  refine Option.ne_none_iff_exists'.1 fun hnone => Text.after?_eq_none_iff.1 hnone ?_
  obtain ⟨name, table, -, -, rfl⟩ := h
  exact ⟨(i.opening ++ name ++ i.joint ++ table).toList, i.tail.toList, by simp⟩

end IndexDefinition

end Sql

/-! ## Entries -/

/-- The cell says that something holds. -/
def Row.flagAt (row : Row) (column : Nat) : Bool := row.get? column = some (.boolean true)

/-- The entry of an index that belongs to no exclusion constraint, from its row and what the
definition says about the method. -/
def Row.indexLine (row : Row) (tail : String) : String :=
  "\"" ++ (row.textAt 0).getD "" ++ "\"" ++
    (if row.flagAt 1 then " PRIMARY KEY,"
      else if row.flagAt 2 ∧ row.textAt 7 = some "u" then " UNIQUE CONSTRAINT,"
      else if row.flagAt 2 then " UNIQUE,"
      else "") ++
    " " ++ tail ++
    (if row.flagAt 8 then " DEFERRABLE" else "") ++
    (if row.flagAt 9 then " INITIALLY DEFERRED" else "") ++
    (if row.flagAt 3 then " CLUSTER" else "") ++
    if row.flagAt 4 then "" else " INVALID"

theorem Row.indexLine_inj {row : Row} {tail tail' : String} :
    row.indexLine tail = row.indexLine tail' ↔ tail = tail' := by
  simp [indexLine, String.append_assoc]

theorem Row.flagAt_of_get? {row : Row} {column : Nat} {b : Bool}
    (h : row.get? column = some (.boolean b)) : row.flagAt column = b := by
  simp [flagAt, h]

theorem Row.flagAt_of_bool? {row : Row} {label : String} {column : Nat} {b : Bool}
    (h : (row.bool? label column).map (·.getD false) = .ok b) : row.flagAt column = b := by
  obtain ⟨o, ho, rfl⟩ := Reading.map_eq_ok.1 h
  rw [bool?_eq_ok] at ho
  cases o with
  | none => simp [flagAt, ho]
  | some b => exact flagAt_of_get? ho

namespace Section

namespace IndexEntry

/-- The entry has been read from the row of an index that belongs to no exclusion constraint. -/
structure IsRead (row : Row) (x : IndexEntry) : Prop where
  name : row.textAt 0 = some x.name
  primary : row.flagAt 1 = x.primary
  unique : row.flagAt 2 = x.unique
  clustered : row.flagAt 3 = x.clustered
  valid : row.flagAt 4 = x.valid
  definition : (row.textAt 5).getD "" = x.definition
  constraintType : row.textAt 7 = x.constraintType
  deferrable : row.flagAt 8 = x.deferrable
  deferred : row.flagAt 9 = x.deferred

theorem isRead_of_ofRow {label : String} {row : Row} {x : IndexEntry}
    (h : ofRow label row = .ok x) (hx : row.textAt 7 ≠ some "x") : IsRead row x := by
  simp only [ofRow, Reading.bind_eq_ok, Reading.pure_eq_ok, Row.text_eq_ok, Row.text?_eq_ok,
    Row.bool_eq_ok] at h
  obtain ⟨name, h0, primary, h1, unique, h2, clustered, h3, valid, h4, definition, h5,
    constraint, h6, constraintType, h7, deferrable, h8, deferred, h9, rfl⟩ := h
  have htype := Column.textAt_of_get? h7
  have hexclusion : isExclusion constraintType = false := by
    rw [htype] at hx
    simpa [isExclusion] using hx
  rw [hexclusion] at h8 h9
  exact {
    name := by simp [Row.textAt, h0, Value.text?]
    primary := Row.flagAt_of_get? h1
    unique := Row.flagAt_of_get? h2
    clustered := Row.flagAt_of_get? h3
    valid := Row.flagAt_of_get? h4
    definition := by rw [Column.textAt_of_get? h5]
    constraintType := htype
    deferrable := Row.flagAt_of_bool? h8
    deferred := Row.flagAt_of_bool? h9 }

theorem IsRead.line_eq {row : Row} {x : IndexEntry} (h : IsRead row x)
    (hx : row.textAt 7 ≠ some "x") {tail : List Char}
    (htail : after? " USING ".toList x.definition.toList = some tail) :
    x.line = row.indexLine (String.ofList tail) := by
  have hexclusion : isExclusion x.constraintType = false := by
    rw [h.constraintType] at hx
    simpa [isExclusion] using hx
  have hkey : x.keyText = if row.flagAt 1 then " PRIMARY KEY,"
      else if row.flagAt 2 ∧ row.textAt 7 = some "u" then " UNIQUE CONSTRAINT,"
      else if row.flagAt 2 then " UNIQUE,"
      else "" := by
    rw [h.primary, h.unique, h.constraintType, keyText]
    cases x.primary <;> cases x.unique <;> simp
  have hmethod : x.methodText = " " ++ String.ofList tail := by rw [methodText, htail]
  rw [line, hexclusion, hkey, hmethod, Row.indexLine, h.name, h.clustered, h.valid, h.deferrable,
    h.deferred]
  cases x.valid <;> simp [quoted, String.append_assoc]

end IndexEntry

end Section

/-! ## Reports -/

namespace ObjectRef

open Section (IndexEntry)

variable {σ : Type}

/-- The indexes of a report are those of the rows of the answer. -/
theorem indexes_of_answerTo? {db : Database σ} {limit : Option Nat} {s : Session σ} {o : ObjectRef}
    {verbose : Bool} {r : Report} {t : ResultSet}
    (h : (s.run db limit (o.describe verbose).run).result = .ok r)
    (ht : answerTo? DescribeStep.indexes.label (s.exchanges db limit (o.describe verbose).run) =
      some (.ok t)) :
    List.Forall₂ (fun row entry =>
      ∃ x, IndexEntry.ofRow DescribeStep.indexes.label row = .ok x ∧ entry = x.line)
      t.rows r.footer.indexes := by
  obtain ⟨info, definition, parts, hinfo, hparts, hfooter⟩ := exists_parts_of_run h
  obtain ⟨entries, hread, hlines⟩ := exists_read_of_gives hinfo rfl ht
    (Section.gives_of_gives_gather verbose hparts).1
  have hindexes : r.footer.indexes = entries.map IndexEntry.line := by rw [hfooter]; exact hlines
  rw [hindexes, List.forall₂_map_right_iff]
  exact (Reading.mapM_eq_ok.1 hread).imp fun _ x hx => ⟨x, hx, rfl⟩

/-- The list of indexes has an entry for each row of the answer. Where the definition has the usual
shape and the index belongs to no exclusion constraint, the entry tells the key that the index makes,
what follows the first ` USING ` of the definition, and the flags. That is what the definition says
about the method exactly if neither the index's name nor the table's contains ` USING `. -/
theorem describe_lists_indexes (db : Database σ) (limit : Option Nat) (s : Session σ)
    (o : ObjectRef) (verbose : Bool) {r : Report} {t : ResultSet}
    (h : (s.run db limit (o.describe verbose).run).result = .ok r)
    (ht : answerTo? DescribeStep.indexes.label (s.exchanges db limit (o.describe verbose).run) =
      some (.ok t)) :
    List.Forall₂ (fun row entry => ∀ text (i : Sql.IndexDefinition), row.textAt 5 = some text →
      i.IsText text → row.textAt 7 ≠ some "x" →
      (∃ shown, FollowsFirst " USING ".toList text.toList shown ∧
        entry = row.indexLine (String.ofList shown)) ∧
      (entry = row.indexLine i.tail ↔
        ∀ name ∈ i.name :: i.table, ¬ " USING ".toList <:+: name.toList))
      t.rows r.footer.indexes := by
  refine (indexes_of_answerTo? h ht).imp ?_
  rintro row entry ⟨x, hx, rfl⟩ text i htext hdefines htype
  have hread := IndexEntry.isRead_of_ofRow hx htype
  have hdefinition : x.definition = text := by rw [← hread.definition, htext]; rfl
  obtain ⟨shown, hshown⟩ := Sql.IndexDefinition.exists_after?_using hdefines
  have hline := hread.line_eq htype (hdefinition ▸ hshown)
  refine ⟨⟨shown, Text.after?_eq_some_iff.1 hshown, hline⟩, ?_⟩
  rw [hline, Row.indexLine_inj, ← Sql.IndexDefinition.after?_using_iff hdefines, hshown,
    Option.some.injEq, ← String.toList_inj, String.toList_ofList]

end ObjectRef

/-- The row of a primary key. -/
def Row.primaryIndex : Row := ⟨[.text "t_pkey", .boolean true, .boolean true, .boolean false,
  .boolean true, .text "CREATE UNIQUE INDEX t_pkey ON public.t USING btree (n)",
  .text "PRIMARY KEY (n)", .text "p", .boolean false, .boolean false]⟩

/-- The row of an index with the keyword in its name. -/
def Row.oddIndex : Row := ⟨[.text "a USING b", .boolean false, .boolean false, .boolean false,
  .boolean true, .text "CREATE INDEX \"a USING b\" ON t USING btree (n)", .null, .null, .null,
  .null]⟩

/-- A database with a table that has the two indexes. -/
def Script.indexed : Script := .ofRows [
  ("describe.table_info", [⟨[.integer 0, .text "r", .boolean true, .boolean false, .boolean false,
    .null, .null, .null, .text "p", .boolean false]⟩]),
  ("describe.columns", [⟨[.text "n", .text "integer", .null, .boolean true, .null, .text "",
    .text "", .null, .null, .null, .null, .null, .null]⟩]),
  ("describe.indexes", [.primaryIndex, .oddIndex])]

/-- The plain description of the table. -/
def Report.indexed : Report where
  schema := "public"
  name := "t"
  kind := .table
  headers := ["Column", "Type", "Modifiers"]
  rows := [["n", "integer", "not null"]]
  footer := {
    indexes := ["\"t_pkey\" PRIMARY KEY, btree (n)", "\"a USING b\" b\" ON t USING btree (n)"] }

namespace ObjectRef

theorem describe_lists_indexes_indexed :
    let o : ObjectRef := ⟨7, "public", "t", .table⟩
    let s : Session Script := ⟨.indexed, false⟩
    let text := "CREATE UNIQUE INDEX t_pkey ON public.t USING btree (n)"
    let i : Sql.IndexDefinition := ⟨true, false, "t_pkey", ["public", "t"], "btree (n)"⟩
    (s.run Script.database none (o.describe false).run).result = .ok .indexed ∧
      answerTo? DescribeStep.indexes.label (s.exchanges Script.database none (o.describe false).run) =
        some (.ok ⟨[], [.primaryIndex, .oddIndex]⟩) ∧
      Row.primaryIndex.textAt 5 = some text ∧ i.IsText text ∧
      Row.primaryIndex.textAt 7 ≠ some "x" ∧
      (∀ name ∈ ["t_pkey", "public", "t"], ¬ " USING ".toList <:+: name.toList) ∧
      "\"t_pkey\" PRIMARY KEY, btree (n)" = Row.primaryIndex.indexLine "btree (n)" := by
  intro o s text i
  have hrun : (s.run Script.database none (o.describe false).run).result = .ok .indexed := by
    decide +kernel
  have hanswer : answerTo? DescribeStep.indexes.label
      (s.exchanges Script.database none (o.describe false).run) =
        some (.ok ⟨[], [.primaryIndex, .oddIndex]⟩) := by decide +kernel
  have hname : Sql.Writes "t_pkey" "t_pkey" := .bare (by decide)
  have htable : Sql.WritesPath ["public", "t"] ("public" ++ "." ++ "t") :=
    .dot (.bare (by decide)) (.one (.bare (by decide)))
  have htext : i.IsText text := ⟨_, _, hname, htable, rfl⟩
  have hentries := describe_lists_indexes Script.database none s o false hrun hanswer
  have hfirst := (List.forall₂_cons.1 hentries).1 text i rfl htext (by decide)
  have hnames : ∀ name ∈ ["t_pkey", "public", "t"], ¬ " USING ".toList <:+: name.toList := by decide
  exact ⟨hrun, hanswer, rfl, htext, by decide, hnames, hfirst.2.2 hnames⟩

/-- The keyword is also found in a quoted name, so that the entry shows a piece of the name, the
table and the keyword before the method. -/
theorem keyword_in_name_shown :
    let o : ObjectRef := ⟨7, "public", "t", .table⟩
    let s : Session Script := ⟨.indexed, false⟩
    let text := "CREATE INDEX \"a USING b\" ON t USING btree (n)"
    let i : Sql.IndexDefinition := ⟨false, false, "a USING b", ["t"], "btree (n)"⟩
    ∃ r, (s.run Script.database none (o.describe false).run).result = .ok r ∧
      answerTo? DescribeStep.indexes.label (s.exchanges Script.database none (o.describe false).run) =
        some (.ok ⟨[], [.primaryIndex, .oddIndex]⟩) ∧
      Row.oddIndex.textAt 5 = some text ∧ i.IsText text ∧ Row.oddIndex.textAt 7 = none ∧
      r.footer.indexes[1]? = some "\"a USING b\" b\" ON t USING btree (n)" ∧
      Row.oddIndex.indexLine i.tail = "\"a USING b\" btree (n)" ∧
      r.footer.indexes[1]? ≠ some (Row.oddIndex.indexLine i.tail) := by
  have hname : Sql.Writes "a USING b" "\"a USING b\"" := .quoted
  have htable : Sql.WritesPath ["t"] "t" := .one (.bare (by decide))
  exact ⟨.indexed, by decide +kernel, by decide +kernel, rfl, ⟨_, _, hname, htable, rfl⟩, rfl, rfl,
    rfl, by decide⟩

end ObjectRef

end CatalogShell
