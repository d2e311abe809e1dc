import CatalogShell.Proofs.Json.Grammar

/-!
# What is written is read back

Both written forms of a JSON value are texts of its draft (`Json.spells_compactChars`,
`Json.spells_prettyChars`), so that the reader gives the draft back from either of them
(`Json.read_compact`, `Json.read_pretty`). This is said of values without floating-point numbers
whose integers lie in the range of the reader's integers (`Json.Exact`).
-/

namespace CatalogShell.Json

/-! ## Drafts of values -/

mutual

/-- The draft of a value. -/
def draft : Json → Draft
  | .null => .null
  | .bool b => .bool b
  | .int n => .number (some (.int n))
  | .float x => .number (some (.float x))
  | .str s => .str (some s)
  | .arr items => .arr (drafts items)
  | .obj members => .obj (memberDrafts members)

/-- The drafts of items. -/
def drafts : List Json → List Draft
  | [] => []
  | j :: js => draft j :: drafts js

/-- The drafts of members. -/
def memberDrafts : List (String × Json) → List (Option String × Draft)
  | [] => []
  | (key, j) :: rest => (some key, draft j) :: memberDrafts rest

end

/-- No number in the value is a floating-point number or out of the range of integers. -/
inductive Exact : Json → Prop where
  | null : Exact .null
  | bool (b : Bool) : Exact (.bool b)
  | int {n : Int} (h : InRange n) : Exact (.int n)
  | str (s : String) : Exact (.str s)
  | arr {items : List Json} (h : ∀ j ∈ items, Exact j) : Exact (.arr items)
  | obj {members : List (String × Json)} (h : ∀ m ∈ members, Exact m.2) : Exact (.obj members)

/-! ## Lists

Both forms write the items of a list, and the members of an object, with commas between them. They
differ in the gap before each of them and in that behind a colon. -/

section Lists

variable {write : Json → List Char} {gap gap' : List Char}

theorem spellsItems {f : List Json → List Char} (hgap : Gap gap)
    (hone : ∀ j, f [j] = gap ++ write j)
    (hmore : ∀ j j' js, f (j :: j' :: js) = gap ++ (write j ++ ',' :: f (j' :: js)))
    {items : List Json} (hne : items ≠ []) (h : ∀ j ∈ items, Spells j.draft (write j)) :
    SpellsItems (drafts items) (f items) := by
  induction items with
  | nil => exact absurd rfl hne
  | cons j js ih =>
    rw [List.forall_mem_cons] at h
    cases js with
    | nil =>
      rw [hone]
      exact .one hgap h.1
    | cons j' js =>
      rw [hmore]
      exact .more hgap h.1 (ih (List.cons_ne_nil _ _) h.2)

theorem spellsMembers {f : List (String × Json) → List Char} (hgap : Gap gap) (hgap' : Gap gap')
    (hone : ∀ m, f [m] = gap ++ (quoteChars m.1 ++ ':' :: (gap' ++ write m.2)))
    (hmore : ∀ m m' ms, f (m :: m' :: ms) =
      gap ++ (quoteChars m.1 ++ ':' :: (gap' ++ (write m.2 ++ ',' :: f (m' :: ms)))))
    {members : List (String × Json)} (hne : members ≠ [])
    (h : ∀ m ∈ members, Spells m.2.draft (write m.2)) :
    SpellsMembers (memberDrafts members) (f members) := by
  induction members with
  | nil => exact absurd rfl hne
  | cons m ms ih =>
    rw [List.forall_mem_cons] at h
    cases ms with
    | nil =>
      rw [hone]
      exact .one hgap hgap' h.1
    | cons m' ms =>
      rw [hmore]
      exact .more hgap hgap' h.1 (ih (List.cons_ne_nil _ _) h.2)

end Lists

/-! ## The compact form -/

theorem gap_nil : Gap [] := by
  intro c hc
  cases hc

theorem spells_compactChars {j : Json} (h : j.Exact) : Spells j.draft j.compactChars := by
  induction h with
  | null => exact .null
  | bool b => exact .bool b
  | int hn => exact .int hn
  | str s => exact .str s
  | @arr items h ih =>
    cases items with
    | nil => exact .noItems
    | cons j js =>
      have hitems : SpellsItems (drafts (j :: js)) (compactItems (j :: js)) :=
        spellsItems gap_nil (fun _ => rfl) (fun _ _ _ => rfl) (List.cons_ne_nil j js) ih
      rw [compactChars, ← List.append_nil (compactItems _)]
      exact .arr hitems gap_nil
  | @obj members h ih =>
    cases members with
    | nil => exact .noMembers
    | cons m ms =>
      have hmembers : SpellsMembers (memberDrafts (m :: ms)) (compactMembers (m :: ms)) :=
        spellsMembers gap_nil gap_nil (fun _ => rfl) (fun _ _ _ => rfl) (List.cons_ne_nil m ms) ih
      rw [compactChars, ← List.append_nil (compactMembers _)]
      exact .obj hmembers gap_nil

/-- The compact form is read as the value that was written. -/
theorem read_compact {j : Json} (h : j.Exact) : read j.compact = some j.draft := by
  apply read_of_spells
  rw [compact, String.toList_ofList]
  exact spells_compactChars h

/-! ## The indented form -/

theorem gap_newLine (level : Nat) : Gap (newLine level) := by
  intro c hc
  obtain rfl | hc := List.mem_cons.1 hc
  · decide
  · rw [List.eq_of_mem_replicate hc]
    decide

theorem spells_prettyChars {j : Json} (h : j.Exact) (level : Nat) :
    Spells j.draft (j.prettyChars level) := by
  have hspace : Gap [' '] := by simp [Gap, isSpace]
  induction h generalizing level with
  | null => exact .null
  | bool b => exact .bool b
  | int hn => exact .int hn
  | str s => exact .str s
  | @arr items h ih =>
    cases items with
    | nil => exact .noItems
    | cons j js =>
      have hitems : SpellsItems (drafts (j :: js)) (prettyItems (level + 1) (j :: js)) :=
        spellsItems (gap_newLine (level + 1)) (fun _ => rfl) (fun _ _ _ => rfl)
          (List.cons_ne_nil j js) fun j hj => ih j hj (level + 1)
      exact .arr hitems (gap_newLine level)
  | @obj members h ih =>
    cases members with
    | nil => exact .noMembers
    | cons m ms =>
      have hmembers :
          SpellsMembers (memberDrafts (m :: ms)) (prettyMembers (level + 1) (m :: ms)) :=
        spellsMembers (gap_newLine (level + 1)) hspace (fun _ => rfl) (fun _ _ _ => rfl)
          (List.cons_ne_nil m ms) fun m hm => ih m hm (level + 1)
      exact .obj hmembers (gap_newLine level)

/-- The indented form is read as the value that was written. -/
theorem read_pretty {j : Json} (h : j.Exact) : read j.pretty = some j.draft := by
  apply read_of_spells
  rw [pretty, String.toList_ofList]
  exact spells_prettyChars h 0

end CatalogShell.Json
