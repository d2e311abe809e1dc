import CatalogShell.Proofs.Describe.Parts
import CatalogShell.Proofs.Inquiry.BestEffort
import CatalogShell.Proofs.Session.Memoryless

/-!
# Descriptions do their best for the definition of a view

The definition of a view is the only part of a description that may be lost without harm to the
rest. `ObjectRef.bestEffort_describe` shows this of the text of the description, section by section,
and `ObjectRef.describe_only_loses_definition` of its runs.
-/

namespace CatalogShell

open Lookup (BestEffort)

namespace Section

/-- The label of the query for the definition of a view. -/
def definitionLabel : String := "describe.view_definition"

variable {α : Type} {label : String}

/-! ## Reading the definition -/

/-- A text that is lost is also one that cannot be read. -/
theorem readFirstText_of_lost {t : ResultSet} (h : Answer.Lost (.ok t)) (label : String) :
    ∃ e, readFirstText label t = .error e ∧ e.isAbandoned = false := by
  cases h with
  | missing first hv =>
    refine ⟨.badCell label 0 "text", ?_, rfl⟩
    simp only [readFirstText, first, Row.text?, Row.nullable, hv]
  | @mistyped _ row v first hv notNull notText =>
    refine ⟨.badCell label 0 "text", ?_, rfl⟩
    simp only [readFirstText, first, Row.text?, Row.nullable, hv]
    cases v with
    | null => exact absurd rfl notNull
    | text s => exact absurd rfl (notText s)
    | _ => rfl

/-- The definition of a view as it is read, or none if it could not be read for a reason other than
that the query was given up. -/
def recover : Except Failure (Option String) → Except Failure (Option String)
  | .ok definition => .ok definition
  | .error e => if e.isAbandoned then .error e else .ok none

theorem run_viewDefinition (oid : Oid) : (viewDefinition oid).run =
    .ask (SectionQuery.viewDefinition oid) fun answer =>
      .done (recover (answer >>= readFirstText (SectionQuery.viewDefinition oid).label)) := by
  have hhandle (e : Failure) :
      (if e.isAbandoned then throw e else pure none : Lookup (Option String)).run =
        .done (recover (.error e)) := by
    change _ = Inquiry.done (if e.isAbandoned then Except.error e else Except.ok none)
    cases e.isAbandoned with
    | true => rfl
    | false => rfl
  unfold viewDefinition
  rw [firstText_eq, ExceptT.run_tryCatch]
  change Inquiry.ask _ _ = _
  congr
  funext answer
  cases answer with
  | error e => exact hhandle e
  | ok t =>
    change Inquiry.bind (.done (readFirstText _ t)) _ = .done (recover (readFirstText _ t))
    cases readFirstText (SectionQuery.viewDefinition oid).label t with
    | ok definition => rfl
    | error e => exact hhandle e

theorem recover_of_lost {answer : Answer} (h : answer.Lost) (label : String) :
    recover (answer >>= readFirstText label) = .ok none := by
  cases answer with
  | error e =>
    have he : e.isAbandoned = false := h.isAbandoned
    change (if e.isAbandoned then _ else _) = _
    rw [he]
    rfl
  | ok t =>
    obtain ⟨e, hread, he⟩ := readFirstText_of_lost h label
    change recover (readFirstText label t) = _
    rw [hread]
    change (if e.isAbandoned then _ else _) = _
    rw [he]
    rfl

theorem bestEffort_viewDefinition (oid : Oid) :
    BestEffort definitionLabel (viewDefinition oid).run := by
  rw [run_viewDefinition]
  refine .ask ?_ ?_ fun _ => .done _
  · intro e he
    -- The query has the label, so that the error is one that gives it up.
    rcases he with hlabel | habandoned
    · exact absurd rfl hlabel
    · change Inquiry.done (if e.isAbandoned then _ else _) = _
      rw [habandoned]
      rfl
  · intro _ answer t hlost ht
    have hempty : readFirstText (SectionQuery.viewDefinition oid).label t = .ok none := by
      simp only [readFirstText, ResultSet.first?, ht, List.head?_nil]
    rw [recover_of_lost hlost]
    change _ = Inquiry.done (recover (readFirstText _ t))
    rw [hempty]
    rfl

/-! ## Sections -/

theorem bestEffort_onlyIf {applies : Bool} {otherwise : α} {x : Lookup α}
    (hx : BestEffort label x.run) : BestEffort label (onlyIf applies otherwise x).run := by
  cases applies with
  | true => exact hx
  | false => exact .pure otherwise

variable {q : Query}

theorem bestEffort_rowsOf (hq : q.label ≠ label) (read : Row → Except Failure α) :
    BestEffort label (rowsOf q read).run :=
  .bind (.lookupAsk hq) fun _ => .lift _

theorem bestEffort_firstText (hq : q.label ≠ label) : BestEffort label (firstText q).run := by
  refine .bind (.askFirst? hq) fun row => ?_
  cases row with
  | some row => exact .lift _
  | none => exact .pure none

theorem bestEffort_texts (hq : q.label ≠ label) : BestEffort label (texts q).run :=
  .bind (bestEffort_rowsOf hq _) fun _ => .pure _

theorem bestEffort_firingGroups (hq : q.label ≠ label) (shape : String → String) :
    BestEffort label (firingGroups q shape).run :=
  .bind (bestEffort_rowsOf hq _) fun _ => .pure _

theorem bestEffort_foreignServer {oid : Oid}
    (hq : (SectionQuery.foreignTable oid).label ≠ label) :
    BestEffort label (foreignServer oid).run := by
  refine .bind (.askFirst? hq) fun row => ?_
  cases row with
  | some row => exact .bind (.lift _) fun _ => .pure _
  | none => exact .pure none

/-- Every section but the definition of a view has a query with another label. -/
theorem bestEffort_gather (info : TableInfo) (schema : String) :
    BestEffort definitionLabel (gather info schema).run := by
  have hlabel (step : DescribeStep) (h : step.label ≠ definitionLabel) :
      (step.query ⟨info.oid, schema, "", info.kind⟩ info.kind true).label ≠ definitionLabel := by
    rwa [DescribeStep.label_query]
  exact
    .bind (bestEffort_onlyIf (.bind (.askFirst (hlabel .indexFooter (by decide))) fun _ =>
      .bind (.lift _) fun _ => .pure _)) fun _ =>
    .bind (bestEffort_onlyIf (bestEffort_firstText (hlabel .sequenceOwner (by decide)))) fun _ =>
    .bind (bestEffort_onlyIf (.bind (bestEffort_rowsOf (hlabel .indexes (by decide)) _) fun _ =>
      .pure _)) fun _ =>
    .bind (bestEffort_onlyIf (bestEffort_rowsOf (hlabel .checkConstraints (by decide)) _)) fun _ =>
    .bind (bestEffort_onlyIf (bestEffort_rowsOf (hlabel .foreignKeys (by decide)) _)) fun _ =>
    .bind (bestEffort_onlyIf (bestEffort_rowsOf (hlabel .referencedBy (by decide)) _)) fun _ =>
    .bind (bestEffort_onlyIf (bestEffort_firingGroups (hlabel .rules (by decide)) _)) fun _ =>
    .bind (bestEffort_onlyIf (bestEffort_rowsOf (hlabel .partitionOf (by decide)) _)) fun _ =>
    .bind (bestEffort_onlyIf (bestEffort_firstText (hlabel .partitionKey (by decide)))) fun _ =>
    .bind (bestEffort_onlyIf (bestEffort_texts (hlabel .partitions (by decide)))) fun _ =>
    .bind (bestEffort_onlyIf (bestEffort_firingGroups (hlabel .triggers (by decide)) _)) fun _ =>
    .bind (bestEffort_onlyIf (bestEffort_foreignServer (hlabel .foreignTable (by decide)))) fun _ =>
    .bind (bestEffort_onlyIf (bestEffort_texts (hlabel .inherits (by decide)))) fun _ =>
    .bind (bestEffort_onlyIf (bestEffort_texts (hlabel .childTables (by decide)))) fun _ => .pure _

theorem bestEffort_footer (info : TableInfo) (schema : String) (verbose : Bool) :
    BestEffort definitionLabel (footer info schema verbose).run := by
  rw [footer_eq]
  exact .bind (bestEffort_onlyIf (bestEffort_viewDefinition _)) fun _ =>
    .bind (bestEffort_gather info schema) fun _ => .pure _

end Section

/-! ## Descriptions -/

open Section (definitionLabel)

theorem Column.bestEffort_lookupRows (info : TableInfo) (schema name : String) (verbose : Bool) :
    BestEffort definitionLabel (lookupRows info schema name verbose).run := by
  have hquery : (query info.oid info.kind verbose).label ≠ definitionLabel := by
    rw [label_query]
    decide
  have hstate : (sequenceState schema name).label ≠ definitionLabel := by
    change "describe.sequence_state" ≠ definitionLabel
    decide
  refine .bind (.lookupAsk hquery) fun answer => .bind ?_ fun _ => .bind (.lift _) fun _ => .pure _
  unfold lookupState
  split
  · exact .bind (.askFirst? hstate) fun _ => .pure _
  · exact .pure _

namespace ObjectRef

theorem bestEffort_describe (verbose : Bool) (o : ObjectRef) :
    BestEffort definitionLabel (o.describe verbose).run := by
  have hinfo : (TableInfo.query o.oid).label ≠ definitionLabel := by
    change TableInfo.label ≠ definitionLabel
    decide
  exact .bind (.bind (.askFirst hinfo) fun _ => .lift _) fun info =>
    .bind (Column.bestEffort_lookupRows info _ _ _) fun _ => .bind (.lift _) fun _ =>
    .bind (Section.bestEffort_footer info _ _) fun _ => .pure _

/-- On two databases that only differ in the query for the definition of a view, where the one has
no text and the other no rows, a description has the same result and sends the same queries. On
any database the description fails with an error that is the answer to another query, and with one
for which that query itself was given up; it sends nothing after that query, but perhaps a request
to stop it. -/
theorem describe_only_loses_definition {σ σ' : Type} {db : Database σ} {db' : Database σ'}
    {limit : Option Nat} {R : σ → σ' → Prop} {s : Session σ} {s' : Session σ'}
    (hdb : db.AgreeBut definitionLabel limit db' R) (hs : s.Matches R s') (verbose : Bool)
    (o : ObjectRef) :
    let x := (o.describe verbose).run
    ((s.run db limit x).result = (s'.run db' limit x).result ∧
      (s.run db limit x).calls = (s'.run db' limit x).calls) ∧
    ∀ {τ : Type} (db : Database τ) (limit : Option Nat) (s t : Session τ) (calls : List Call)
      (q : Query) (resume : Answer → Inquiry (Except Failure Report)) (e : Failure),
      Session.Comes db limit x s calls (.ask q resume) t → (t.send db limit q).result = .error e →
      q.label ≠ definitionLabel ∨ e.isAbandoned = true →
      s.run db limit x =
        ⟨.error e, calls ++ (t.send db limit q).calls, (t.send db limit q).session⟩ ∧
      (t.send db limit q).calls <+: [.query q, .stop] := by
  intro x
  have hx : BestEffort definitionLabel x := bestEffort_describe verbose o
  refine ⟨hx.run_eq hdb hs, ?_⟩
  intro τ db limit s t calls q resume e hcomes he hq
  exact ⟨hx.run_of_error hcomes he hq, Session.calls_send_prefix q t⟩

end ObjectRef

/-! ## A view whose definition may not be read -/

namespace Script

variable {label : String} {entries : List ScriptEntry} {q : Query}

theorem take_of_label_ne (h : ∀ e ∈ entries, e.label ≠ q.label) :
    take q entries = (none, entries) := by
  induction entries with
  | nil => rfl
  | cons e es ih =>
    simp only [List.forall_mem_cons] at h
    have hfits : e.fits q = false := by simp [ScriptEntry.fits, h.1]
    rw [take, hfits, ih h.2]
    rfl

/-- The script with an answer to all queries of a label. -/
def answering (d : Script) (label : String) (answer : Answer) : Script :=
  { d with entries := { label, reply := { answer } } :: d.entries }

theorem take_answering (d : Script) (label : String) (answer : Answer) :
    take q (d.answering label answer).entries =
      if q.label = label then (some { answer }, (d.answering label answer).entries)
      else ((take q d.entries).1, { label, reply := { answer } } :: (take q d.entries).2) := by
  by_cases hq : q.label = label
  · simp [answering, take, ScriptEntry.fits, ScriptEntry.spend, hq]
  · simp [answering, take, ScriptEntry.fits, hq, Ne.symm hq]

/-- A script without memory that has nothing for the label, and the same script with a lost answer
to the queries of the label. -/
theorem agreeBut_answering {d : Script}
    (hd : ∀ e ∈ d.entries, e.uses = none ∧ e.label ≠ label) {answer : Answer}
    (hlost : answer.Lost) (limit : Option Nat) :
    database.AgreeBut label limit database fun d₁ d₂ => d₁ = d.answering label answer ∧ d₂ = d where
  reply_eq := by
    rintro _ _ ⟨rfl, rfl⟩ q hq
    simp only [database, take_answering, hq, ↓reduceIte]
  lost := by
    rintro _ _ ⟨rfl, rfl⟩ q hq
    simp only [database, take_answering, hq, ↓reduceIte]
    exact hlost
  empty := by
    rintro _ d ⟨-, rfl⟩ q hq
    have hnone : take q d.entries = (none, d.entries) :=
      take_of_label_ne fun e he => hq ▸ (hd e he).2
    simp only [database, hnone]
    exact ⟨{}, rfl, rfl⟩
  cancelsToken := by
    rintro _ d ⟨rfl, rfl⟩ q hq
    have hnone : take q d.entries = (none, d.entries) :=
      take_of_label_ne fun e he => hq ▸ (hd e he).2
    simp only [database, take_answering, hq, ↓reduceIte, hnone]
    rfl
  afterReply := by
    rintro _ d ⟨rfl, rfl⟩ q
    have hkeeps : (take q d.entries).2 = d.entries :=
      take_snd_of_unlimited (fun e he => (hd e he).1) q
    by_cases hq : q.label = label
    · simp only [database, take_answering, hq, ↓reduceIte, hkeeps, true_and]
    · simp only [database, take_answering, hq, ↓reduceIte, hkeeps, and_true]
      rfl
  afterStop := by
    rintro _ d ⟨rfl, rfl⟩
    exact ⟨rfl, rfl⟩

/-- A database with a view of one column. -/
def logins : Script := .ofRows [
  (TableInfo.label, [⟨[.integer 0, .text "v", .boolean false, .boolean true, .boolean false, .null,
    .null, .null, .text "p", .boolean false]⟩]),
  (Column.label, [⟨[.text "day", .text "date", .null, .boolean false, .null, .text "", .text "",
    .null, .null, .null, .text "p", .null, .null]⟩])]

end Script

/-- Without the right to read it, the definition is missing from the description. If it does not
come in time, there is no description. -/
theorem ObjectRef.describe_only_loses_definition_logins :
    let denied : Answer := .error (.queryFailed definitionLabel "permission denied")
    let late : ScriptEntry :=
      { label := definitionLabel, reply := { answer := .ok {}, arrival := .never } }
    let s : Session Script := ⟨Script.logins.answering definitionLabel denied, false⟩
    let s' : Session Script := ⟨.logins, false⟩
    let sLate : Session Script := ⟨{ entries := late :: Script.logins.entries }, false⟩
    let x := (ObjectRef.describe true ⟨7, "public", "logins", .view⟩).run
    (∃ r, (s'.run Script.database none x).result = .ok r) ∧
      ((s.run Script.database none x).result = (s'.run Script.database none x).result ∧
        (s.run Script.database none x).calls = (s'.run Script.database none x).calls) ∧
      (sLate.run Script.database (some 100) x).result = .error (.timedOut 100) := by
  intro denied late s s' sLate x
  have hentries : ∀ e ∈ Script.logins.entries, e.uses = none ∧ e.label ≠ definitionLabel := by
    decide
  have hagree := Script.agreeBut_answering hentries (.failed rfl : denied.Lost) none
  have hmatches : s.Matches (fun d d' => d = Script.logins.answering definitionLabel denied ∧
      d' = Script.logins) s' := ⟨⟨rfl, rfl⟩, rfl⟩
  obtain ⟨hsame, hstops⟩ := describe_only_loses_definition hagree hmatches true
    ⟨7, "public", "logins", .view⟩
  -- The definition is the third query of the description.
  obtain ⟨calls, resume, t, hcomes, hlate⟩ : ∃ calls resume t,
      Session.Comes Script.database (some 100) x sLate calls
        (.ask (SectionQuery.viewDefinition 7) resume) t ∧
      (t.send Script.database (some 100) (SectionQuery.viewDefinition 7)).result =
        .error (.timedOut 100) := by
    iterate 3 apply Exists.intro
    constructor
    · apply Session.Comes.ask
      apply Session.Comes.ask
      apply Session.Comes.start
    · rfl
  have hstop := hstops Script.database (some 100) sLate t calls _ resume _ hcomes hlate (.inr rfl)
  exact ⟨⟨_, rfl⟩, hsame, congrArg Outcome.result hstop.1⟩

end CatalogShell
