import CatalogShell.Proofs.Text.Lines
import CatalogShell.Text.Numbered
import Mathlib.Data.List.Basic
import Mathlib.Data.Nat.Digits.Defs

/-!
# Numbered lines can be read back

Each line of a numbered text is a gutter, a blank and a line of the source. `inGutter` says what
stands in the gutter from the place where the body starts; `numberBody_eq` is one induction over the
lines, in which that place moves one line up at each step.

`numberLines_reads_back`: dropping eight characters of each line undoes the numbering exactly as
long as fewer than ten million lines are numbered.
-/

namespace CatalogShell.Text

variable {cs line : List Char} {ls : List (List Char)}

/-! ## Pieces between separators -/

theorem splitAt_eq_splitOn (sep : Char) (cs : List Char) : splitAt sep cs = cs.splitOn sep := by
  induction cs with
  | nil => rfl
  | cons c cs ih =>
    rw [List.splitOn, List.splitOnP_cons_eq_if_modifyHead]
    by_cases hc : c = sep
    · simp only [splitAt, hc, ↓reduceIte, beq_self_eq_true, ih]
      rfl
    · rw [splitAt_cons_of_ne hc, ih, if_neg (by simpa using hc)]
      rfl

/-- Pieces without a separator are told from the text that they make up. -/
theorem intercalate_eq_iff {sep : Char} (h : ∀ line ∈ ls, sep ∉ line) (hne : ls ≠ []) :
    [sep].intercalate ls = cs ↔ ls = cs.splitOn sep := by
  constructor
  · rintro rfl
    exact (List.splitOn_intercalate sep h hne).symm
  · rintro rfl
    exact List.intercalate_splitOn sep

/-! ## Gutters -/

/-- A gutter shows a text with blanks behind it, and is seven characters wide unless the text is
wider. -/
structure IsGutter (text gutter : List Char) : Prop where
  filled : ∃ n, gutter = text ++ List.replicate n ' '
  width : gutter.length = max 7 text.length

theorem isGutter_padRight (text : List Char) : IsGutter text (padRight 7 text) where
  filled := ⟨_, rfl⟩
  width := by
    rw [padRight, List.length_append, List.length_replicate]
    omega

/-- What stands in the gutter of a line if numbering starts at the line `first`. -/
def inGutter (first i : Nat) : List Char := if i < first then [] else (i - first + 1).repr.toList

/-- The first line that begins with `AS `, or the number of lines if there is none. -/
def firstNumbered (ls : List (List Char)) : Nat := ls.findIdx fun line => ['A', 'S', ' '] <+: line

theorem startsBody_iff : startsBody line = true ↔ ['A', 'S', ' '] <+: line :=
  List.isPrefixOf_iff_prefix

theorem numberFrom_eq (n : Nat) (ls : List (List Char)) : numberFrom n ls =
    written (ls.mapIdx fun i line => padRight 7 (n + i).repr.toList ++ ' ' :: line) := by
  induction ls generalizing n with
  | nil => rfl
  | cons line ls ih =>
    rw [numberFrom, ih, List.mapIdx_cons, written_cons, gutterLine]
    simp [Nat.add_assoc, Nat.add_comm 1]

theorem numberBody_eq (ls : List (List Char)) : numberBody ls =
    written (ls.mapIdx fun i line => padRight 7 (inGutter (firstNumbered ls) i) ++ ' ' :: line) := by
  induction ls with
  | nil => rfl
  | cons line ls ih =>
    rw [numberBody]
    split
    · next hstart =>
      have hfirst : firstNumbered (line :: ls) = 0 := by
        simp [firstNumbered, List.findIdx_cons, startsBody_iff.1 hstart]
      rw [hfirst, numberFrom_eq]
      simp [inGutter, Nat.add_comm 1]
    · next hstart =>
      rw [startsBody_iff] at hstart
      have hfirst : firstNumbered (line :: ls) = firstNumbered ls + 1 := by
        simp [firstNumbered, List.findIdx_cons, hstart]
      rw [hfirst, ih, List.mapIdx_cons, written_cons, gutterLine]
      simp [inGutter]

/-! ## Reading back -/

theorem newline_notMem_inGutter (first i : Nat) : '\n' ∉ inGutter first i := by
  unfold inGutter
  split
  · exact List.not_mem_nil
  · rw [Nat.toList_repr]
    exact fun h => absurd (Nat.isDigit_of_mem_toDigits (by decide) (by decide) h) (by decide)

theorem newline_notMem_padRight {width : Nat} (h : '\n' ∉ cs) : '\n' ∉ padRight width cs := by
  simp [padRight, h]

/-- What stands in the gutters of `n` lines has seven characters at most as long as fewer than ten
million of them are numbered. -/
theorem length_inGutter_le_iff (first n : Nat) :
    (∀ i < n, (inGutter first i).length ≤ 7) ↔ n - first < 10 ^ 7 := by
  constructor
  · intro h
    by_contra hmany
    -- The line with the number ten million is the first one that does not fit.
    have hlast := h (first + (10 ^ 7 - 1)) (by omega)
    rw [inGutter, if_neg (by omega), Nat.add_sub_cancel_left] at hlast
    exact absurd hlast (by decide)
  · intro hfew i hi
    unfold inGutter
    split
    · exact Nat.zero_le 7
    · exact Nat.repr_length _ 7 (by decide) (by omega)

/-- Eight characters are the gutter and the blank, if what is in the gutter fits. -/
theorem drop_padRight_iff : (padRight 7 cs ++ ' ' :: line).drop 8 = line ↔ cs.length ≤ 7 := by
  have hwidth := (isGutter_padRight cs).width
  constructor
  · intro h
    have hlength := congrArg List.length h
    simp only [List.length_drop, List.length_append, List.length_cons] at hlength
    omega
  · intro h
    have height : (padRight 7 cs ++ [' ']).length = 8 := by
      rw [List.length_append, hwidth, Nat.max_eq_left h]
      rfl
    rw [List.append_cons, ← height, List.drop_left]

/-- The lines of a source text: one more than there are newlines. -/
def sourceLines (source : String) : List (List Char) := source.toList.splitOn '\n'

/-- A text whose lines have each lost their first eight characters. -/
def dropGutters (printed : List Char) : List Char :=
  ['\n'].intercalate ((physicalLines printed).map (List.drop 8))

/-- Numbering prints one line for each line of the source: a gutter, a blank and the line. The gutters
are blank before the first line that begins with `AS `, and count from there. Dropping eight
characters of each line gives the source back as long as fewer than ten million lines are
numbered, and no longer. -/
theorem numberLines_reads_back (source : String) :
    (∃ gutter : Nat → List Char,
      (∀ i, IsGutter (inGutter (firstNumbered (sourceLines source)) i) (gutter i)) ∧
      (numberLines source).toList =
        written ((sourceLines source).mapIdx fun i line => gutter i ++ ' ' :: line)) ∧
    (dropGutters (numberLines source).toList = source.toList ↔
      (sourceLines source).length - firstNumbered (sourceLines source) < 10 ^ 7) := by
  have hlines : splitAt '\n' source.toList = sourceLines source :=
    splitAt_eq_splitOn '\n' source.toList
  have hsource : source.toList.splitOn '\n' = sourceLines source := rfl
  generalize sourceLines source = ls at hlines hsource ⊢
  have hprinted : (numberLines source).toList = written (ls.mapIdx fun i line =>
      padRight 7 (inGutter (firstNumbered ls) i) ++ ' ' :: line) := by
    rw [numberLines, String.toList_ofList, hlines, numberBody_eq]
  refine ⟨⟨_, fun i => isGutter_padRight _, hprinted⟩, ?_⟩
  have hplain : ∀ line ∈ ls, '\n' ∉ line := fun line hline =>
    (of_mem_splitAt (hlines ▸ hline)).1
  have hgutter (i : Nat) : '\n' ∉ padRight 7 (inGutter (firstNumbered ls) i) :=
    newline_notMem_padRight (newline_notMem_inGutter _ i)
  have hread : dropGutters (numberLines source).toList = ['\n'].intercalate (ls.mapIdx fun i line =>
      (padRight 7 (inGutter (firstNumbered ls) i) ++ ' ' :: line).drop 8) := by
    rw [dropGutters, hprinted, physicalLines_written, List.mapIdx_eq_zipIdx_map, List.map_map,
      List.mapIdx_eq_zipIdx_map]
    · rfl
    · intro printed hmem
      obtain ⟨i, hi, rfl⟩ := List.mem_mapIdx.1 hmem
      simp [hgutter i, hplain _ (List.getElem_mem hi)]
  rw [hread, intercalate_eq_iff ?plain ?ne, ← length_inGutter_le_iff]
  case plain =>
    intro rest hmem hnewline
    obtain ⟨i, hi, rfl⟩ := List.mem_mapIdx.1 hmem
    have hin := List.mem_of_mem_drop hnewline
    simp [hgutter i, hplain _ (List.getElem_mem hi)] at hin
  case ne =>
    have hne : ls ≠ [] := hlines ▸ splitAt_ne_nil '\n' source.toList
    simpa using hne
  rw [hsource, List.ext_getElem_iff]
  simp only [List.length_mapIdx, List.getElem_mapIdx, drop_padRight_iff, true_and]
  exact ⟨fun h i hi => h i hi hi, fun h i hi _ => h i hi⟩

end CatalogShell.Text
