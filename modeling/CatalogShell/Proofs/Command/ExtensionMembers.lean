import CatalogShell.Command.Builtin
import CatalogShell.Proofs.Session.Exchange
import CatalogShell.Proofs.Value.Row
import CatalogShell.Script

/-!
# Listing the members of extensions

The verbose listing of extensions asks which extensions have the given name, and goes through the
rows of the answer in order. A row is read only after the members for all rows before it have been
asked for and read, so that a malformed row does not keep the queries for those from being sent.

* `Row.ListsMembers`: an extension is listed with its members, in one session.
* `Row.FailsMembers`: the ways in which that can go wrong, and what has been sent until then.
* `ListedInTurn`: rows whose extensions are all listed, one after the other.
* `Handler.extensions_verbose_fails_fast`: the listing ends with the first row that fails.
-/

namespace CatalogShell

variable {σ : Type}

/-! ## What becomes of a row -/

namespace Row

/-- The row tells the name and the number of an extension. -/
structure Identifies (row : Row) (name : String) (oid : Oid) : Prop where
  name : row.get? 0 = some (.text name)
  oid : (row.get? 1).bind Value.oid? = some oid

/-- The row describes an object. NULL is read as an empty description. -/
def Mentions (row : Row) (object : String) : Prop :=
  row.get? 0 = some (.text object) ∨ row.get? 0 = some .null ∧ object = ""

/-- The extension of the row is listed with its members, which takes one query. -/
structure ListsMembers (db : Database σ) (limit : Option Nat) (s : Session σ) (row : Row)
    (x : ExtensionMembers) (oid : Oid) (s' : Session σ) : Prop where
  identifies : row.Identifies x.name oid
  answered : ∃ t, (s.send db limit (Listing.extensionMembers oid)).result = .ok t ∧
    List.Forall₂ Mentions t.rows x.objects
  session : (s.send db limit (Listing.extensionMembers oid)).session = s'

/-- The listing of the extension fails after it has sent the given calls. -/
inductive FailsMembers (db : Database σ) (limit : Option Nat) (s : Session σ) (row : Row) :
    Failure → List Call → Session σ → Prop
  /-- The row has no name, and nothing is asked. -/
  | unnamed (h : ∀ name, row.get? 0 ≠ some (.text name)) :
      FailsMembers db limit s row (.badCell "list.extensions.find" 0 "text") [] s
  /-- The row has a name and no number, and nothing is asked. -/
  | unnumbered {name : String} (named : row.get? 0 = some (.text name))
      (h : (row.get? 1).bind Value.oid? = none) :
      FailsMembers db limit s row (.badCell "list.extensions.find" 1 "oid") [] s
  /-- The query for the members fails. -/
  | refused {name : String} {oid : Oid} {e : Failure} (identifies : row.Identifies name oid)
      (h : (s.send db limit (Listing.extensionMembers oid)).result = .error e) :
      FailsMembers db limit s row e (s.send db limit (Listing.extensionMembers oid)).calls
        (s.send db limit (Listing.extensionMembers oid)).session
  /-- One of the members is malformed. -/
  | malformed {name : String} {oid : Oid} {t : ResultSet} (identifies : row.Identifies name oid)
      (h : (s.send db limit (Listing.extensionMembers oid)).result = .ok t)
      (fault : ∃ member ∈ t.rows, ∀ object, ¬ member.Mentions object) :
      FailsMembers db limit s row (.badCell "list.extensions.members" 0 "text")
        [.query (Listing.extensionMembers oid)]
        (s.send db limit (Listing.extensionMembers oid)).session

end Row

/-- The extensions of the rows are listed one after the other, each with its members. -/
inductive ListedInTurn (db : Database σ) (limit : Option Nat) :
    Session σ → List Row → List (ExtensionMembers × Oid) → Session σ → Prop
  | nil {s : Session σ} : ListedInTurn db limit s [] [] s
  | cons {s s' s'' : Session σ} {row : Row} {rows : List Row} {x : ExtensionMembers} {oid : Oid}
      {entries : List (ExtensionMembers × Oid)} (first : row.ListsMembers db limit s x oid s')
      (rest : ListedInTurn db limit s' rows entries s'') :
      ListedInTurn db limit s (row :: rows) ((x, oid) :: entries) s''

variable {db : Database σ} {limit : Option Nat} {s s' : Session σ}

/-- The queries that list the entries. -/
def membersCalls (entries : List (ExtensionMembers × Oid)) : List Call :=
  entries.map fun entry => .query (Listing.extensionMembers entry.2)

/-- The entries are those of the rows, in order. -/
theorem ListedInTurn.identifies {rows : List Row} {entries : List (ExtensionMembers × Oid)}
    (h : ListedInTurn db limit s rows entries s') :
    List.Forall₂ (fun row entry => row.Identifies entry.1.name entry.2) rows entries := by
  induction h with
  | nil => exact .nil
  | cons first _ ih => exact .cons first.identifies ih

namespace Handler

variable {row : Row}

/-! ## Members -/

/-- The description of an object; NULL is read as an empty one. -/
def objectOf (label : String) (row : Row) : Except Failure String :=
  (row.text? label 0).map (·.getD "")

theorem objectOf_eq_ok {label object : String} :
    objectOf label row = .ok object ↔ row.Mentions object := by
  rw [objectOf, Reading.map_eq_ok]
  simp only [Row.text?_eq_ok]
  constructor
  · rintro ⟨_ | text, h, rfl⟩
    · exact .inr ⟨h, rfl⟩
    · exact .inl h
  · rintro (h | ⟨h, rfl⟩)
    · exact ⟨some object, h, rfl⟩
    · exact ⟨none, h, rfl⟩

theorem objectOf_eq_error {label : String} {e : Failure} (h : objectOf label row = .error e) :
    e = .badCell label 0 "text" := by
  rw [objectOf, Reading.map_eq_error] at h
  exact (Row.nullable_eq_error.1 h).1.symm

/-- The rows can all be read, or there is one that cannot. -/
theorem mentioned_or_fault (rows : List Row) :
    (∃ objects, List.Forall₂ Row.Mentions rows objects) ∨
      ∃ member ∈ rows, ∀ object, ¬ member.Mentions object := by
  -- The label is only named in failures.
  cases hread : rows.mapM (objectOf "") with
  | ok objects =>
    exact .inl ⟨objects, (Reading.mapM_eq_ok.1 hread).imp fun _ _ => objectOf_eq_ok.1⟩
  | error e =>
    obtain ⟨member, hmember, he⟩ := Reading.exists_of_mapM_eq_error hread
    refine .inr ⟨member, hmember, fun object hobject => ?_⟩
    rw [objectOf_eq_ok.2 hobject] at he
    cases he

/-- An extension of a given name, with the members in the answer to a query. -/
def membersOf (name label : String) (t : ResultSet) : Except Failure ExtensionMembers :=
  (t.rows.mapM fun row : Row => row.text? label 0).map fun objects =>
    ⟨name, objects.map (·.getD "")⟩

theorem membersOf_eq (name label : String) (t : ResultSet) :
    membersOf name label t = (t.rows.mapM (objectOf label)).map (⟨name, ·⟩) := by
  have hread : t.rows.mapM (objectOf label) =
      (t.rows.mapM fun row : Row => row.text? label 0).map (List.map (·.getD "")) :=
    (Reading.map_mapM _ _ _).symm
  rw [hread, membersOf]
  cases t.rows.mapM fun row : Row => row.text? label 0 <;> rfl

theorem membersOf_eq_ok {name label : String} {t : ResultSet} {x : ExtensionMembers} :
    membersOf name label t = .ok x ↔
      x.name = name ∧ List.Forall₂ Row.Mentions t.rows x.objects := by
  simp only [membersOf_eq, Reading.map_eq_ok, Reading.mapM_eq_ok, objectOf_eq_ok]
  constructor
  · rintro ⟨objects, h, rfl⟩
    exact ⟨rfl, h⟩
  · rintro ⟨rfl, h⟩
    exact ⟨x.objects, h, rfl⟩

theorem membersOf_of_fault {name label : String} {t : ResultSet}
    (h : ∃ member ∈ t.rows, ∀ object, ¬ member.Mentions object) :
    membersOf name label t = .error (.badCell label 0 "text") := by
  cases hread : t.rows.mapM (objectOf label) with
  | ok objects =>
    obtain ⟨member, hmember, hfault⟩ := h
    obtain ⟨object, hobject⟩ := Reading.exists_of_mapM_eq_ok hread hmember
    exact absurd (objectOf_eq_ok.1 hobject) (hfault object)
  | error e =>
    obtain ⟨member, -, he⟩ := Reading.exists_of_mapM_eq_error hread
    rw [membersOf_eq, hread, objectOf_eq_error he]
    rfl

/-! ## One row -/

/-- The steps for one row: what is read of it, the one query, and what is read of the answer. -/
theorem extensionOfRow_eq (label : String) (row : Row) :
    extensionOfRow label row = (liftM (row.text label 0) : Lookup String) >>= fun name =>
      (liftM (row.oid label 1) : Lookup Oid) >>= fun oid =>
        Lookup.ask (Listing.extensionMembers oid) >>= fun t =>
          liftM (membersOf name (Listing.extensionMembers oid).label t) := by
  simp only [extensionOfRow]
  refine bind_congr fun name => bind_congr fun oid => bind_congr fun t => ?_
  rw [membersOf]
  cases t.rows.mapM fun row : Row => row.text? (Listing.extensionMembers oid).label 0 <;> rfl

/-- A row that names an extension is one query. -/
theorem run_of_identifies {label name : String} {row : Row} {oid : Oid}
    (h : row.Identifies name oid) (s : Session σ) :
    s.run db limit (extensionOfRow label row).run =
      ⟨(s.send db limit (Listing.extensionMembers oid)).result >>=
          membersOf name "list.extensions.members",
        (s.send db limit (Listing.extensionMembers oid)).calls,
        (s.send db limit (Listing.extensionMembers oid)).session⟩ := by
  rw [extensionOfRow_eq, Row.text_eq_ok.2 h.name, Row.oid_eq_ok.2 h.oid]
  exact Session.run_ask_lift _ _ s

theorem run_of_lists {row : Row} {x : ExtensionMembers} {oid : Oid}
    (h : row.ListsMembers db limit s x oid s') :
    s.run db limit (extensionOfRow "list.extensions.find" row).run =
      ⟨.ok x, [.query (Listing.extensionMembers oid)], s'⟩ := by
  obtain ⟨t, ht, hmentions⟩ := h.answered
  rw [run_of_identifies h.identifies, Session.calls_send_of_ok ht, h.session, ht]
  exact congrArg (Outcome.mk · _ _) (membersOf_eq_ok.2 ⟨rfl, hmentions⟩)

theorem run_of_fails {row : Row} {e : Failure} {calls : List Call}
    (h : row.FailsMembers db limit s e calls s') :
    s.run db limit (extensionOfRow "list.extensions.find" row).run = ⟨.error e, calls, s'⟩ := by
  cases h with
  | unnamed h =>
    have hname : row.text "list.extensions.find" 0 = .error (.badCell _ 0 "text") :=
      Row.required_of_forall_ne fun name hname => h name (Row.text_eq_ok.1 hname)
    rw [extensionOfRow_eq, hname]
    rfl
  | unnumbered named h =>
    have hoid : row.oid "list.extensions.find" 1 = .error (.badCell _ 1 "oid") :=
      Row.required_of_forall_ne fun oid hoid =>
        Option.some_ne_none oid ((Row.oid_eq_ok.1 hoid).symm.trans h)
    rw [extensionOfRow_eq, Row.text_eq_ok.2 named, hoid]
    rfl
  | refused identifies h =>
    rw [run_of_identifies identifies, h]
    rfl
  | malformed identifies h fault =>
    rw [run_of_identifies identifies, Session.calls_send_of_ok h, h]
    exact congrArg (Outcome.mk · _ _) (membersOf_of_fault fault)

/-- One or the other becomes of a row, whatever the database answers. -/
theorem lists_or_fails (db : Database σ) (limit : Option Nat) (s : Session σ) (row : Row) :
    (∃ x oid s', row.ListsMembers db limit s x oid s') ∨
      ∃ e calls s', row.FailsMembers db limit s e calls s' := by
  by_cases hname : ∃ name, row.get? 0 = some (.text name)
  · obtain ⟨name, hname⟩ := hname
    cases hoid : (row.get? 1).bind Value.oid? with
    | none => exact .inr ⟨_, _, _, .unnumbered hname hoid⟩
    | some oid =>
      have hid : row.Identifies name oid := ⟨hname, hoid⟩
      cases ht : (s.send db limit (Listing.extensionMembers oid)).result with
      | error e => exact .inr ⟨_, _, _, .refused hid ht⟩
      | ok t =>
        obtain ⟨objects, hobjects⟩ | hfault := mentioned_or_fault t.rows
        · exact .inl ⟨⟨name, objects⟩, oid, _, hid, ⟨t, ht, hobjects⟩, rfl⟩
        · exact .inr ⟨_, _, _, .malformed hid ht hfault⟩
  · exact .inr ⟨_, _, _, .unnamed (not_exists.1 hname)⟩

/-! ## All rows -/

/-- The rows before the first failure are listed, whatever comes after them. -/
theorem run_of_listedInTurn {rows : List Row} {entries : List (ExtensionMembers × Oid)}
    (h : ListedInTurn db limit s rows entries s') (rest : List Row) :
    let out := s'.run db limit (rest.mapM (extensionOfRow "list.extensions.find")).run
    s.run db limit ((rows ++ rest).mapM (extensionOfRow "list.extensions.find")).run =
      ⟨out.result.map (entries.map Prod.fst ++ ·), membersCalls entries ++ out.calls,
        out.session⟩ := by
  intro out
  -- The induction is on the rows that are listed; the session before the rest stays the same.
  induction h with
  | nil => cases hout : out.result <;> simp [out, ← hout, membersCalls, Except.map]
  | cons first _ ih =>
    have hfirst := run_of_lists first
    rw [List.cons_append, List.mapM_cons, Session.run_bind_ok _ (congrArg Outcome.result hfirst),
      hfirst, Session.run_bind_pure, ih]
    cases out.result <;> rfl

/-- Nothing but the queries for the members has been sent when all rows are listed. -/
theorem run_of_all_listed {rows : List Row} {entries : List (ExtensionMembers × Oid)}
    (h : ListedInTurn db limit s rows entries s') :
    s.run db limit (rows.mapM (extensionOfRow "list.extensions.find")).run =
      ⟨.ok (entries.map Prod.fst), membersCalls entries, s'⟩ := by
  have hrun := run_of_listedInTurn h []
  rw [List.append_nil] at hrun
  rw [hrun]
  change (⟨.ok (_ ++ []), _ ++ [], s'⟩ : Outcome σ (Except Failure (List ExtensionMembers))) = _
  rw [List.append_nil, List.append_nil]

theorem run_of_fails_after {before : List Row} {entries : List (ExtensionMembers × Oid)} {row : Row}
    {e : Failure} {calls : List Call} {last : Session σ}
    (hbefore : ListedInTurn db limit s before entries s')
    (hfails : row.FailsMembers db limit s' e calls last) (after : List Row) :
    s.run db limit ((before ++ row :: after).mapM (extensionOfRow "list.extensions.find")).run =
      ⟨.error e, membersCalls entries ++ calls, last⟩ := by
  have hrow := run_of_fails hfails
  rw [run_of_listedInTurn hbefore, List.mapM_cons,
    Session.run_bind_error _ (congrArg Outcome.result hrow), hrow]
  rfl

theorem listedInTurn_or_fails (db : Database σ) (limit : Option Nat) (s : Session σ)
    (rows : List Row) :
    (∃ entries s', ListedInTurn db limit s rows entries s') ∨
      ∃ before row after entries s' e calls s'', rows = before ++ row :: after ∧
        ListedInTurn db limit s before entries s' ∧
        row.FailsMembers db limit s' e calls s'' := by
  induction rows generalizing s with
  | nil => exact .inl ⟨[], s, .nil⟩
  | cons row rows ih =>
    obtain ⟨x, oid, s', hfirst⟩ | ⟨e, calls, s', hfails⟩ := lists_or_fails db limit s row
    · obtain ⟨entries, s'', hrest⟩ |
        ⟨before, failing, after, entries, s'', e, calls, last, rfl, hbefore, hfails⟩ := ih s'
      · exact .inl ⟨_, _, .cons hfirst hrest⟩
      · exact .inr ⟨row :: before, failing, after, _, _, e, calls, last, rfl,
          .cons hfirst hbefore, hfails⟩
    · exact .inr ⟨[], row, rows, [], s, e, calls, s', rfl, .nil, hfails⟩

/-! ## The command -/

theorem label_findExtensions (name : String) :
    (Listing.findExtensions name).label = "list.extensions.find" := by
  unfold Listing.findExtensions
  split <;> rfl

variable {mode : PatternMode} {args : String}

/-- The verbose form asks for the extensions of the name that its arguments are, in either mode. -/
theorem extensions_verbose (mode : PatternMode) (args : String) : extensions mode args true =
    Lookup.ask (Listing.findExtensions args) >>= fun found =>
      found.rows.mapM (extensionOfRow (Listing.findExtensions args).label) >>= fun xs =>
        pure (.extensions xs) :=
  rfl

theorem run_extensions_error {e : Failure}
    (h : (s.send db limit (Listing.findExtensions args)).result = .error e) :
    s.run db limit (extensions mode args true).run =
      ⟨.error e, (s.send db limit (Listing.findExtensions args)).calls,
        (s.send db limit (Listing.findExtensions args)).session⟩ := by
  rw [← Session.run_ask] at h ⊢
  rw [extensions_verbose, label_findExtensions, Session.run_bind_error _ h]

theorem run_extensions_ok {t : ResultSet}
    (h : (s.send db limit (Listing.findExtensions args)).result = .ok t) :
    let found := (s.send db limit (Listing.findExtensions args)).session
    let rest := found.run db limit (t.rows.mapM (extensionOfRow "list.extensions.find")).run
    s.run db limit (extensions mode args true).run =
      ⟨rest.result.map .extensions, .query (Listing.findExtensions args) :: rest.calls,
        rest.session⟩ := by
  have hcalls := Session.calls_send_of_ok h
  rw [← Session.run_ask] at h hcalls ⊢
  rw [extensions_verbose, label_findExtensions, Session.run_bind_ok _ h, hcalls,
    Session.run_bind_pure]
  rfl

/-- Whatever the database does, the verbose listing asks which extensions there are and fails if
that does. Else its rows are listed in order, up to the first that fails, and one or the other
comes to pass. If all rows are listed, the command gives their extensions, and has sent the query
for the members of each of them. If one fails, the command fails in the same way, and sends nothing
for a later row. -/
theorem extensions_verbose_fails_fast (db : Database σ) (limit : Option Nat) (s : Session σ)
    (mode : PatternMode) (args : String) :
    let find := Listing.findExtensions args
    let found := s.send db limit find
    let out := s.run db limit (extensions mode args true).run
    (∀ oid, (Listing.extensionMembers oid).params = [.oid oid]) ∧
    (∀ e, found.result = .error e → out = ⟨.error e, found.calls, found.session⟩) ∧
    ∀ t, found.result = .ok t →
      (∀ entries last, ListedInTurn db limit found.session t.rows entries last →
        List.Forall₂ (fun row entry => row.Identifies entry.1.name entry.2) t.rows entries ∧
        out = ⟨.ok (.extensions (entries.map Prod.fst)), .query find :: membersCalls entries,
          last⟩) ∧
      (∀ before row after entries s' e calls last, t.rows = before ++ row :: after →
        ListedInTurn db limit found.session before entries s' →
        row.FailsMembers db limit s' e calls last →
        out = ⟨.error e, .query find :: (membersCalls entries ++ calls), last⟩) ∧
      ((∃ entries last, ListedInTurn db limit found.session t.rows entries last) ∨
        ∃ before row after entries s' e calls last, t.rows = before ++ row :: after ∧
          ListedInTurn db limit found.session before entries s' ∧
          row.FailsMembers db limit s' e calls last) := by
  intro find found out
  refine ⟨fun _ => rfl, fun e he => run_extensions_error he, fun t ht => ⟨?_, ?_, ?_⟩⟩
  · intro entries last hlisted
    refine ⟨hlisted.identifies, ?_⟩
    simp only [out, run_extensions_ok ht]
    rw [run_of_all_listed hlisted]
    rfl
  · intro before row after entries s' e calls last hrows hlisted hfails
    simp only [out, run_extensions_ok ht, hrows]
    rw [run_of_fails_after hlisted hfails after]
    rfl
  · exact listedInTurn_or_fails db limit found.session t.rows

/-- The second of three extensions has no number; nothing is asked about the third. -/
example :
    let answer (label : String) (rows : List Row) : ScriptEntry :=
      { label, reply := { answer := .ok { rows } } }
    let s : Session Script := ⟨{ entries := [
      answer "list.extensions.find" [⟨[.text "hstore", .oid 7]⟩, ⟨[.text "ltree", .null]⟩,
        ⟨[.text "seg", .oid 9]⟩],
      answer "list.extensions.members" [⟨[.text "type hstore"]⟩, ⟨[.null]⟩]] }, false⟩
    let out := s.run Script.database none (extensions .lenient "" true).run
    out.result = .error (.badCell "list.extensions.find" 1 "oid") ∧
      out.calls = [.query (Listing.findExtensions ""), .query (Listing.extensionMembers 7)] :=
  ⟨rfl, rfl⟩

end Handler

end CatalogShell
