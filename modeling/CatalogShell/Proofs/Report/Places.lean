import CatalogShell.Report.Json
import Mathlib.Data.List.Basic
import Mathlib.Data.List.Nodup

/-!
# A footer as blocks and as JSON

A footer keeps its texts in places (`Place`): a section, or one firing mode of a section that is
filed by mode. Its blocks and its JSON form are written down apart from each other, in different
orders and under different names. Both show the places that hold a text, and nothing else.

* `Footer.blocks_eq`: there is one block for each place that holds a text, with that text.
* `Footer.members_eq`: the members of the JSON form, with the strings in each, are the sections that
  hold a text.
* `Footer.toJson_shows_blocks`: so a member is there exactly if its section has a block, and its
  strings are the lines of its blocks.
-/

namespace CatalogShell

/-! ## Strings of JSON values -/

namespace Json

mutual

/-- The strings in a value, in order. The keys of members are not among them. -/
def strings : Json → List String
  | .str s => [s]
  | .arr items => itemStrings items
  | .obj members => memberStrings members
  | _ => []

/-- The strings in items. -/
def itemStrings : List Json → List String
  | [] => []
  | j :: js => strings j ++ itemStrings js

/-- The strings in the values of members. -/
def memberStrings : List (String × Json) → List String
  | [] => []
  | (_, j) :: rest => strings j ++ memberStrings rest

end

@[simp] theorem itemStrings_map_str (items : List String) :
    itemStrings (items.map .str) = items := by
  induction items with
  | nil => rfl
  | cons s items ih => simp [itemStrings, strings, ih]

end Json

/-! ## Places -/

/-- The modes in the order of display. -/
def FiringMode.all : List FiringMode := [.enabled, .disabled, .always, .replica]

/-- The key of a mode in the JSON form of a section that is filed by mode. -/
def FiringMode.key : FiringMode → String
  | .enabled => "enabled"
  | .disabled => "disabled"
  | .always => "always"
  | .replica => "replica"

/-- Where a footer keeps texts: a section, or a mode of a section that is filed by mode. -/
inductive Place where
  | indexSummary
  | ownedBy
  | viewDefinition
  | partitionOf
  | partitionConstraints
  | partitionKey
  | indexes
  | checkConstraints
  | foreignKeys
  | referencedBy
  | rules (mode : FiringMode)
  | triggers (mode : FiringMode)
  | server
  | fdwOptions
  | inherits
  | partitions
  | partitionsSummary
  | childTables
  | childTablesSummary
  | typedTableOf
  | options
deriving DecidableEq, Repr

namespace Place

/-- The heading of a place. A list and the count that may stand for it have the same. -/
def heading : Place → String
  | indexSummary => "Index"
  | ownedBy => "Owned by"
  | viewDefinition => "View definition"
  | partitionOf => "Partition of"
  | partitionConstraints => "Partition constraint"
  | partitionKey => "Partition key"
  | indexes => "Indexes"
  | checkConstraints => "Check constraints"
  | foreignKeys => "Foreign-key constraints"
  | referencedBy => "Referenced by"
  | rules .enabled => "Rules"
  | rules .disabled => "Disabled rules"
  | rules .always => "Rules firing always"
  | rules .replica => "Rules firing on replica only"
  | triggers .enabled => "Triggers"
  | triggers .disabled => "Disabled triggers"
  | triggers .always => "Triggers firing always"
  | triggers .replica => "Triggers firing on replica only"
  | server => "Server"
  | fdwOptions => "FDW options"
  | inherits => "Inherits"
  | partitions => "Partitions"
  | partitionsSummary => "Partitions"
  | childTables => "Child tables"
  | childTablesSummary => "Child tables"
  | typedTableOf => "Typed table of type"
  | options => "Options"

/-- The key of the section that a place belongs to. -/
def key : Place → String
  | indexSummary => "index_summary"
  | ownedBy => "owned_by"
  | viewDefinition => "view_definition"
  | partitionOf => "partition_of"
  | partitionConstraints => "partition_constraints"
  | partitionKey => "partition_key"
  | indexes => "indexes"
  | checkConstraints => "check_constraints"
  | foreignKeys => "foreign_keys"
  | referencedBy => "referenced_by"
  | rules _ => "rules"
  | triggers _ => "triggers"
  | server => "server"
  | fdwOptions => "fdw_options"
  | inherits => "inherits"
  | partitions => "partitions"
  | partitionsSummary => "partitions_summary"
  | childTables => "child_tables"
  | childTablesSummary => "child_tables_summary"
  | typedTableOf => "typed_table_of"
  | options => "options"

/-- All places, in the order of display. -/
def all : List Place :=
  [indexSummary, ownedBy, viewDefinition, partitionOf, partitionConstraints, partitionKey, indexes,
    checkConstraints, foreignKeys, referencedBy] ++ FiringMode.all.map rules ++
  FiringMode.all.map triggers ++ [server, fdwOptions, inherits, partitions, partitionsSummary,
    childTables, childTablesSummary, typedTableOf, options]

/-- All places, in the order of the fields of a footer. -/
def byField : List Place :=
  [indexSummary, indexes, checkConstraints, foreignKeys, referencedBy, viewDefinition] ++
  FiringMode.all.map rules ++ FiringMode.all.map triggers ++ [partitionOf, partitionConstraints,
    partitionKey, partitions, partitionsSummary, inherits, childTables, childTablesSummary,
    typedTableOf, options, server, fdwOptions, ownedBy]

/-- The places of the section that a place belongs to. -/
def group : Place → List Place
  | rules _ => FiringMode.all.map rules
  | triggers _ => FiringMode.all.map triggers
  | p => [p]

theorem nodup_all : all.Nodup := by decide

theorem all_perm_byField : all.Perm byField := by decide

theorem filter_key_all (p : Place) : all.filter (·.key = p.key) = p.group := by
  cases p with
  | rules mode =>
    change all.filter (·.key = "rules") = FiringMode.all.map rules
    decide
  | triggers mode =>
    change all.filter (·.key = "triggers") = FiringMode.all.map triggers
    decide
  | _ => decide

theorem mem_all (p : Place) : p ∈ all := by
  cases p with
  | rules mode => cases mode <;> decide
  | triggers mode => cases mode <;> decide
  | _ => decide

end Place

namespace FiringGroups

/-- The entries of all modes. -/
def entries (g : FiringGroups) : List String := FiringMode.all.flatMap g.get

theorem eq_of_get_eq {g g' : FiringGroups} (h : ∀ mode, g.get mode = g'.get mode) : g = g' := by
  obtain ⟨⟩ := g
  obtain ⟨⟩ := g'
  simp only [mk.injEq]
  exact ⟨h .enabled, h .disabled, h .always, h .replica⟩

end FiringGroups

namespace Footer

/-- The texts at a place. -/
def texts (f : Footer) : Place → List String
  | .indexSummary => f.indexSummary.toList
  | .ownedBy => f.ownedBy.toList
  | .viewDefinition => f.viewDefinition.toList
  | .partitionOf => f.partitionOf
  | .partitionConstraints => f.partitionConstraints
  | .partitionKey => f.partitionKey.toList
  | .indexes => f.indexes
  | .checkConstraints => f.checkConstraints
  | .foreignKeys => f.foreignKeys
  | .referencedBy => f.referencedBy
  | .rules mode => f.rules.get mode
  | .triggers mode => f.triggers.get mode
  | .server => f.server.toList
  | .fdwOptions => f.fdwOptions.toList
  | .inherits => f.inherits
  | .partitions => f.partitions
  | .partitionsSummary => f.partitionsSummary.toList
  | .childTables => f.childTables
  | .childTablesSummary => f.childTablesSummary.toList
  | .typedTableOf => f.typedTableOf.toList
  | .options => f.options.toList

/-- The sections by key, each with all of its texts, in the order of the fields. -/
def sections (f : Footer) : List (String × List String) := [
  ("index_summary", f.indexSummary.toList),
  ("indexes", f.indexes),
  ("check_constraints", f.checkConstraints),
  ("foreign_keys", f.foreignKeys),
  ("referenced_by", f.referencedBy),
  ("view_definition", f.viewDefinition.toList),
  ("rules", f.rules.entries),
  ("triggers", f.triggers.entries),
  ("partition_of", f.partitionOf),
  ("partition_constraints", f.partitionConstraints),
  ("partition_key", f.partitionKey.toList),
  ("partitions", f.partitions),
  ("partitions_summary", f.partitionsSummary.toList),
  ("inherits", f.inherits),
  ("child_tables", f.childTables),
  ("child_tables_summary", f.childTablesSummary.toList),
  ("typed_table_of", f.typedTableOf.toList),
  ("options", f.options.toList),
  ("server", f.server.toList),
  ("fdw_options", f.fdwOptions.toList),
  ("owned_by", f.ownedBy.toList)]

/-- The block of a place. -/
def block (f : Footer) (p : Place) : Block := ⟨p.heading, f.texts p⟩

/-- The places that hold a text, in the order of display. -/
def shown (f : Footer) : List Place := Place.all.filter fun p => !(f.texts p).isEmpty

theorem mem_shown {f : Footer} {p : Place} : p ∈ f.shown ↔ f.texts p ≠ [] := by
  simp [shown, Place.mem_all]

/-- The places hold all that a footer holds. -/
theorem eq_of_texts_eq {f g : Footer} (h : f.texts = g.texts) : f = g := by
  have htexts (p : Place) : f.texts p = g.texts p := congrFun h p
  have htext {a b : Option String} (hab : a.toList = b.toList) : a = b := by
    simpa using congrArg List.head? hab
  have hrules : f.rules = g.rules := FiringGroups.eq_of_get_eq fun mode => htexts (.rules mode)
  have htriggers : f.triggers = g.triggers :=
    FiringGroups.eq_of_get_eq fun mode => htexts (.triggers mode)
  obtain ⟨⟩ := f
  obtain ⟨⟩ := g
  simp only [Footer.mk.injEq]
  exact ⟨htext (htexts .indexSummary), htexts .indexes, htexts .checkConstraints,
    htexts .foreignKeys, htexts .referencedBy, htext (htexts .viewDefinition), hrules, htriggers,
    htexts .partitionOf, htexts .partitionConstraints, htext (htexts .partitionKey),
    htexts .partitions, htext (htexts .partitionsSummary), htexts .inherits, htexts .childTables,
    htext (htexts .childTablesSummary), htext (htexts .typedTableOf), htext (htexts .options),
    htext (htexts .server), htext (htexts .fdwOptions), htext (htexts .ownedBy)⟩

theorem blocks_eq_flatMap (f : Footer) :
    f.blocks = Place.all.flatMap fun p => listBlock p.heading (f.texts p) := by
  unfold blocks firingBlocks textBlock
  simp only [List.append_assoc, Place.all, FiringMode.all, List.map_cons, List.map_nil,
    List.cons_append, List.nil_append, List.flatMap_cons, List.flatMap_nil, List.append_nil,
    Place.heading, texts, FiringGroups.get]

/-- There is one block for each place that holds a text, with the texts of the place. -/
theorem blocks_eq (f : Footer) : f.blocks = f.shown.map f.block := by
  rw [blocks_eq_flatMap, shown]
  induction Place.all with
  | nil => rfl
  | cons p ps ih =>
    rw [List.flatMap_cons, ih]
    cases h : (f.texts p).isEmpty <;> simp [listBlock, h, block]

end Footer

/-! ## Members -/

/-- What is empty contributes no line. -/
theorem flatMap_filter_not_isEmpty {ι : Type} (lines : ι → List String) (l : List ι) :
    (l.filter fun i => !(lines i).isEmpty).flatMap lines = l.flatMap lines := by
  induction l with
  | nil => rfl
  | cons i l ih =>
    rw [List.flatMap_cons, ← ih]
    cases h : lines i <;> simp [h]

/-- Keys with the strings below them. -/
def told (members : List (String × Json)) : List (String × List String) :=
  members.map fun m => (m.1, m.2.strings)

/-- The sections that hold a text. -/
def filled (sections : List (String × List String)) : List (String × List String) :=
  sections.filter fun s => !s.2.isEmpty

theorem told_append (ms ms' : List (String × Json)) : told (ms ++ ms') = told ms ++ told ms' :=
  List.map_append

theorem filled_append (ss ss' : List (String × List String)) :
    filled (ss ++ ss') = filled ss ++ filled ss' := List.filter_append ss ss'

theorem memberStrings_eq (ms : List (String × Json)) :
    Json.memberStrings ms = (told ms).flatMap Prod.snd := by
  induction ms with
  | nil => rfl
  | cons m ms ih => simp [Json.memberStrings, ih, told]

theorem told_listMember (key : String) (items : List String) :
    told (listMember key items) = filled [(key, items)] := by
  cases h : items.isEmpty <;> simp [told, filled, listMember, h, Json.strings]

theorem told_textMember (key : String) (text : Option String) :
    told (textMember key text) = filled [(key, text.toList)] := by
  cases text <;> simp [told, filled, textMember, Json.strings]

/-- Members that show lines by key: there is one for each key that some of what is shown has, and
its strings are the lines of all that has the key, in order. -/
structure ShowLines {ι : Type} (shown : List ι) (key : ι → String) (lines : ι → List String)
    (members : List (String × Json)) : Prop where
  nodup : (members.map Prod.fst).Nodup
  mem_keys : ∀ k, k ∈ members.map Prod.fst ↔ ∃ i ∈ shown, key i = k
  strings : ∀ m ∈ members, m.2.strings = (shown.filter (key · = m.1)).flatMap lines

theorem showLines_of_told {ι : Type} {shown : List ι} {key : ι → String} {lines : ι → List String}
    {members : List (String × Json)} {ss : List (String × List String)}
    (h : told members = filled ss) (hnodup : (ss.map Prod.fst).Nodup)
    (hkeys : ∀ i ∈ shown, key i ∈ ss.map Prod.fst) (hlines : ∀ i ∈ shown, lines i ≠ [])
    (hss : ∀ s ∈ ss, s.2 = (shown.filter (key · = s.1)).flatMap lines) :
    ShowLines shown key lines members := by
  have hfst : members.map Prod.fst = (filled ss).map Prod.fst := by
    rw [← h, told, List.map_map]
    rfl
  refine ⟨?_, fun k => ?_, fun m hm => ?_⟩
  · rw [hfst]
    exact (List.filter_sublist.map Prod.fst).nodup hnodup
  · rw [hfst, List.mem_map]
    constructor
    · rintro ⟨s, hs, rfl⟩
      obtain ⟨hmem, hne⟩ := List.mem_filter.1 hs
      have hlinesOf : (shown.filter (key · = s.1)).flatMap lines ≠ [] := by
        rw [← hss s hmem]
        simpa using hne
      obtain ⟨line, hline⟩ := List.exists_mem_of_ne_nil _ hlinesOf
      obtain ⟨i, hi, -⟩ := List.mem_flatMap.1 hline
      obtain ⟨hshown, hkey⟩ := List.mem_filter.1 hi
      exact ⟨i, hshown, of_decide_eq_true hkey⟩
    · rintro ⟨i, hi, rfl⟩
      obtain ⟨s, hs, heq⟩ := List.mem_map.1 (hkeys i hi)
      refine ⟨s, List.mem_filter.2 ⟨hs, ?_⟩, heq⟩
      have hmem : i ∈ shown.filter (key · = s.1) := List.mem_filter.2 ⟨hi, by simp [heq]⟩
      have hne : s.2 ≠ [] := fun hnil =>
        hlines i hi (List.flatMap_eq_nil_iff.1 ((hss s hs).symm.trans hnil) i hmem)
      simpa using hne
  · have htold : (m.1, m.2.strings) ∈ filled ss := h ▸ List.mem_map_of_mem hm
    exact hss _ (List.mem_of_mem_filter htold)

theorem ShowLines.eq_nil_iff {ι : Type} {shown : List ι} {key : ι → String}
    {lines : ι → List String} {members : List (String × Json)}
    (h : ShowLines shown key lines members) : members = [] ↔ shown = [] := by
  constructor
  · rintro rfl
    refine List.eq_nil_iff_forall_not_mem.2 fun i hi => ?_
    simpa using (h.mem_keys (key i)).2 ⟨i, hi, rfl⟩
  · rintro rfl
    refine List.eq_nil_iff_forall_not_mem.2 fun m hm => ?_
    simpa using (h.mem_keys m.1).1 (List.mem_map_of_mem hm)

namespace FiringGroups

theorem isEmpty_eq (g : FiringGroups) : g.isEmpty = g.entries.isEmpty := by
  rw [Bool.eq_iff_iff]
  simp [isEmpty, entries, FiringMode.all, get, and_assoc]

/-- The members of groups are the modes that have entries. -/
theorem members_eq (g : FiringGroups) : ∃ modes, g.toJson = .obj modes ∧
    told modes = filled (FiringMode.all.map fun mode => (mode.key, g.get mode)) := by
  refine ⟨_, rfl, ?_⟩
  simp only [told_append, told_listMember, ← filled_append]
  rfl

/-- The modes that have entries, in the order of display. -/
def shown (g : FiringGroups) : List FiringMode :=
  FiringMode.all.filter fun mode => !(g.get mode).isEmpty

theorem showLines (g : FiringGroups) : ∃ modes, g.toJson = .obj modes ∧
    ShowLines g.shown FiringMode.key g.get modes := by
  obtain ⟨modes, hmodes, htold⟩ := g.members_eq
  refine ⟨modes, hmodes, showLines_of_told htold ?_ ?_ ?_ ?_⟩
  · rw [List.map_map]
    change (FiringMode.all.map FiringMode.key).Nodup
    decide
  · intro mode hmode
    rw [List.map_map]
    exact List.mem_map_of_mem (List.mem_of_mem_filter hmode)
  · intro mode hmode
    simpa using (List.mem_filter.1 hmode).2
  · intro s hs
    obtain ⟨mode, -, rfl⟩ := List.mem_map.1 hs
    have hkey : FiringMode.all.filter (·.key = mode.key) = [mode] := by cases mode <;> decide
    rw [shown, List.filter_comm, flatMap_filter_not_isEmpty, hkey, List.flatMap_singleton]

theorem strings_toJson (g : FiringGroups) : g.toJson.strings = g.entries := by
  obtain ⟨modes, hmodes, htold⟩ := g.members_eq
  rw [hmodes, Json.strings, memberStrings_eq, htold, filled, flatMap_filter_not_isEmpty,
    List.flatMap_map]
  rfl

end FiringGroups

theorem told_firingMember (key : String) (g : FiringGroups) :
    told (firingMember key g) = filled [(key, g.entries)] := by
  cases h : g.entries.isEmpty <;>
    simp [told, filled, firingMember, g.isEmpty_eq, h, g.strings_toJson]

namespace Footer

theorem mem_listMember {key k : String} {items : List String} {j : Json} :
    (k, j) ∈ listMember key items ↔ k = key ∧ items ≠ [] ∧ j = .arr (items.map .str) := by
  cases items <;> simp [listMember]

theorem mem_textMember {key k : String} {text : Option String} {j : Json} :
    (k, j) ∈ textMember key text ↔ k = key ∧ text.map .str = some j := by
  cases text <;> simp [textMember, eq_comm]

theorem mem_firingMember {key k : String} {g : FiringGroups} {j : Json} :
    (k, j) ∈ firingMember key g ↔ k = key ∧ g.isEmpty = false ∧ j = g.toJson := by
  cases h : g.isEmpty <;> simp [firingMember, h]

/-- The members of the JSON form of a footer are the sections that hold a text. -/
theorem members_eq (f : Footer) : ∃ members, f.toJson = .obj members ∧
    told members = filled f.sections ∧
    (∀ j, ("rules", j) ∈ members → j = f.rules.toJson) ∧
    ∀ j, ("triggers", j) ∈ members → j = f.triggers.toJson := by
  refine ⟨_, rfl, ?_, ?_, ?_⟩
  · unfold sections
    simp only [told_append, told_listMember, told_textMember, told_firingMember, ← filled_append,
      List.cons_append, List.nil_append]
  · intro j hj
    have hrules : f.rules.isEmpty = false ∧ j = f.rules.toJson := by
      simpa [mem_listMember, mem_textMember, mem_firingMember] using hj
    exact hrules.2
  · intro j hj
    have htriggers : f.triggers.isEmpty = false ∧ j = f.triggers.toJson := by
      simpa [mem_listMember, mem_textMember, mem_firingMember] using hj
    exact htriggers.2

/-- The texts of the places in the section of a place. -/
theorem flatMap_section (f : Footer) (p : Place) :
    (f.shown.filter (·.key = p.key)).flatMap f.texts = p.group.flatMap f.texts := by
  rw [shown, List.filter_comm, flatMap_filter_not_isEmpty, Place.filter_key_all]

theorem texts_of_mem_sections (f : Footer) : ∀ s ∈ f.sections,
    s.2 = (f.shown.filter (·.key = s.1)).flatMap f.texts := by
  have hone (p : Place) (hp : p.group = [p]) :
      f.texts p = (f.shown.filter (·.key = p.key)).flatMap f.texts := by
    rw [flatMap_section, hp, List.flatMap_singleton]
  have hrules : f.rules.entries = (f.shown.filter (·.key = "rules")).flatMap f.texts := by
    refine Eq.trans ?_ (f.flatMap_section (.rules .enabled)).symm
    rw [Place.group, List.flatMap_map]
    rfl
  have htriggers : f.triggers.entries = (f.shown.filter (·.key = "triggers")).flatMap f.texts := by
    refine Eq.trans ?_ (f.flatMap_section (.triggers .enabled)).symm
    rw [Place.group, List.flatMap_map]
    rfl
  unfold sections
  simp only [List.forall_mem_cons]
  exact ⟨hone .indexSummary rfl, hone .indexes rfl, hone .checkConstraints rfl,
    hone .foreignKeys rfl, hone .referencedBy rfl, hone .viewDefinition rfl, hrules, htriggers,
    hone .partitionOf rfl, hone .partitionConstraints rfl, hone .partitionKey rfl,
    hone .partitions rfl, hone .partitionsSummary rfl, hone .inherits rfl, hone .childTables rfl,
    hone .childTablesSummary rfl, hone .typedTableOf rfl, hone .options rfl, hone .server rfl,
    hone .fdwOptions rfl, hone .ownedBy rfl, by simp⟩

theorem nodup_sections (f : Footer) : (f.sections.map Prod.fst).Nodup := by
  unfold sections
  simp only [List.map_cons, List.map_nil]
  decide

theorem key_mem_sections (f : Footer) (p : Place) : p.key ∈ f.sections.map Prod.fst := by
  cases p <;> simp [sections, Place.key]

/-- All texts of a footer stand in its blocks, each once. -/
theorem lines_blocks_perm (f : Footer) :
    (f.blocks.flatMap Block.lines).Perm (f.sections.flatMap Prod.snd) := by
  have hlines : f.blocks.flatMap Block.lines = Place.all.flatMap f.texts := by
    rw [blocks_eq, List.flatMap_map, shown]
    exact flatMap_filter_not_isEmpty f.texts Place.all
  have hsections : f.sections.flatMap Prod.snd = Place.byField.flatMap f.texts := by
    unfold sections
    simp only [Place.byField, FiringMode.all, FiringGroups.entries, List.map_cons, List.map_nil,
      List.cons_append, List.nil_append, List.flatMap_cons, List.flatMap_nil, List.append_nil, texts,
      List.append_assoc]
  rw [hlines, hsections]
  exact Place.all_perm_byField.flatMap_right f.texts

/-- The JSON form of groups shows the modes of their section that are shown. -/
theorem showLines_modes (f : Footer) {place : FiringMode → Place} {g : FiringGroups}
    (hplace : ∀ mode, f.texts (place mode) = g.get mode) :
    ∃ modes, g.toJson = .obj modes ∧
      ShowLines (FiringMode.all.filter (place · ∈ f.shown)) FiringMode.key
        (fun mode => (f.block (place mode)).lines) modes := by
  obtain ⟨modes, hobj, hmodes⟩ := g.showLines
  have hshown : FiringMode.all.filter (place · ∈ f.shown) = g.shown := by
    refine List.filter_congr fun mode _ => ?_
    rw [Bool.eq_iff_iff]
    simp [mem_shown, hplace]
  have hlines : (fun mode => (f.block (place mode)).lines) = g.get := funext hplace
  exact ⟨modes, hobj, by rwa [hshown, hlines]⟩

/-- The blocks of a footer and its JSON form show the same texts. There is one block for each place
that holds a text. There is a member for each section with a block, and its strings are the lines of
the section's blocks, in order; rules and triggers have a member for each mode with a block in the
same way. All texts of the footer stand in the blocks, each once, and there is nothing in a footer
but the texts at its places. -/
theorem toJson_shows_blocks (f : Footer) :
    f.shown.Nodup ∧ f.blocks = f.shown.map f.block ∧
    (∃ members, f.toJson = .obj members ∧
      ShowLines f.shown Place.key (fun p => (f.block p).lines) members ∧
      (∀ j, ("rules", j) ∈ members → ∃ modes, j = .obj modes ∧
        ShowLines (FiringMode.all.filter (.rules · ∈ f.shown)) FiringMode.key
          (fun mode => (f.block (.rules mode)).lines) modes) ∧
      (∀ j, ("triggers", j) ∈ members → ∃ modes, j = .obj modes ∧
        ShowLines (FiringMode.all.filter (.triggers · ∈ f.shown)) FiringMode.key
          (fun mode => (f.block (.triggers mode)).lines) modes) ∧
      (members = [] ↔ f.blocks = [])) ∧
    (f.blocks.flatMap Block.lines).Perm (f.sections.flatMap Prod.snd) ∧
    ∀ g : Footer, g.texts = f.texts → g = f := by
  obtain ⟨members, hmembers, htold, hrules, htriggers⟩ := f.members_eq
  have hshow : ShowLines f.shown Place.key (fun p => (f.block p).lines) members :=
    showLines_of_told htold f.nodup_sections (fun p _ => f.key_mem_sections p)
      (fun p hp => mem_shown.1 hp) f.texts_of_mem_sections
  have hnil : members = [] ↔ f.blocks = [] := by
    rw [hshow.eq_nil_iff, f.blocks_eq, List.map_eq_nil_iff]
  refine ⟨Place.nodup_all.filter _, f.blocks_eq, ⟨members, hmembers, hshow, fun j hj => ?_,
    fun j hj => ?_, hnil⟩, f.lines_blocks_perm, fun g hg => eq_of_texts_eq hg⟩
  · rw [hrules j hj]
    exact f.showLines_modes fun _ => rfl
  · rw [htriggers j hj]
    exact f.showLines_modes fun _ => rfl

end Footer

end CatalogShell
