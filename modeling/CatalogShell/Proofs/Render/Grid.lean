import CatalogShell.Proofs.Text.Lines
import CatalogShell.Render.Grid
import Mathlib.Data.List.Forall2
import Mathlib.Data.List.Induction

/-!
# The geometry of grids

The lines of a grid are cut at the same places, whatever the cells hold: `fence` tells the places
of the marks from the widths alone, and `between` what stands between two of them.

* `IsRule`, `Shows`: a line of dashes, and a line that shows the entries of a row, each with a
  blank on either side and filled up to the width of its column.
* `isWidths_widths`: the width of a column is that of its widest entry.
* `render_aligned`: a grid is three lines, one more for each row and, if there are rows, a last
  one, all cut at the same places.
-/

namespace CatalogShell

/-- The blanks before and after a cell that stands at its side. -/
def Align.Stands : Align → Nat → Nat → Prop
  | .left, before, _ => before = 0
  | .right, _, after => after = 0

namespace Grid

/-- The blanks before and after a header. -/
def Centred (before after : Nat) : Prop := before ≤ after ∧ after ≤ before + 1

/-! ## Fences -/

/-- The place of the mark in front of column `i`, and of the last mark if `i` counts the columns. -/
def fence : List Nat → Nat → Nat
  | w :: ws, i + 1 => w + 3 + fence ws i
  | _, _ => 0

/-- What stands in column `i` of a line, between two marks. -/
def between (ws : List Nat) (line : List Char) (i : Nat) : List Char :=
  (line.drop (fence ws i + 1)).take (fence ws (i + 1) - (fence ws i + 1))

/-- The line has a mark at each place of a fence and ends with the last one. -/
structure Fenced (mark : Char) (ws : List Nat) (cs : List Char) : Prop where
  length : cs.length = fence ws ws.length + 1
  marks : ∀ i ≤ ws.length, cs[fence ws i]? = some mark

/-- A line that separates rows. -/
structure IsRule (ws : List Nat) (line : List Char) : Prop extends Fenced '+' ws line where
  dashes : ∀ i w, ws[i]? = some w → between ws line i = List.replicate (w + 2) '-'

/-- The content of a column of width `w` is the entry with a blank on either side, and with blanks
before and after it that fill it up to the width. -/
def Fills (stands : Nat → Nat → Prop) (w : Nat) (entry : String) (content : List Char) : Prop :=
  ∃ before after, stands before after ∧ before + entry.length + after = w ∧
    content = ' ' :: (List.replicate before ' ' ++ entry.toList ++ List.replicate after ' ') ++ [' ']

/-- A line that shows the entries of a row, each in its column. -/
structure Shows (stands : Nat → Nat → Prop) (ws : List Nat) (entries : List String)
    (line : List Char) : Prop extends Fenced '|' ws line where
  fills : ∀ i w entry, ws[i]? = some w → entries[i]? = some entry →
    Fills stands w entry (between ws line i)

/-- A line without its newline. -/
def drawn (mark : Char) (pieces : List (List Char)) : List Char :=
  mark :: pieces.flatMap (· ++ [mark])

variable {mark : Char} {w i : Nat} {ws : List Nat} {piece : List Char} {pieces : List (List Char)}

@[simp] theorem fence_zero (ws : List Nat) : fence ws 0 = 0 := by
  cases ws <;> rfl

@[simp] theorem fence_cons_succ (w : Nat) (ws : List Nat) (i : Nat) :
    fence (w :: ws) (i + 1) = w + 3 + fence ws i := rfl

theorem drawn_cons (mark : Char) (piece : List Char) (pieces : List (List Char)) :
    drawn mark (piece :: pieces) = (mark :: piece) ++ drawn mark pieces := by
  simp [drawn]

theorem line_eq (mark : Char) (h : pieces ≠ []) : line mark pieces = drawn mark pieces ++ ['\n'] := by
  have hjoin : [mark].intercalate pieces ++ [mark] = pieces.flatMap (· ++ [mark]) := by
    induction pieces with
    | nil => exact absurd rfl h
    | cons piece pieces ih =>
      cases pieces with
      | nil => simp [List.intercalate]
      | cons next pieces =>
        rw [List.intercalate_cons_cons, List.append_assoc, ih (by simp)]
        simp
  rw [line, drawn, ← hjoin]
  simp

/-- Pieces that are two characters wider than the columns stand between the fences. -/
theorem fenced_drawn (h : pieces.map List.length = ws.map (· + 2)) :
    Fenced mark ws (drawn mark pieces) := by
  induction pieces generalizing ws with
  | nil =>
    obtain rfl : ws = [] := by simpa using h.symm
    exact ⟨rfl, fun i hi => by simp [fence, drawn]⟩
  | cons piece pieces ih =>
    cases ws with
    | nil => cases h
    | cons w ws =>
      simp only [List.map_cons, List.cons.injEq] at h
      obtain ⟨hpiece, hrest⟩ := h
      have hfenced := ih hrest
      have hlength : (mark :: piece).length = w + 3 := by simp [hpiece]
      rw [drawn_cons]
      constructor
      · rw [List.length_append, hlength, hfenced.length, List.length_cons, fence_cons_succ]
        omega
      · intro i hi
        cases i with
        | zero => rfl
        | succ i =>
          rw [fence_cons_succ, ← hlength, List.getElem?_append_right (by omega),
            Nat.add_sub_cancel_left]
          exact hfenced.marks i (by simpa using hi)

/-- Behind the first column the places count from its closing mark. -/
theorem between_cons_succ {first rest : List Char} (h : first.length = w + 3) :
    between (w :: ws) (first ++ rest) (i + 1) = between ws rest i := by
  have hwidth : w + 3 + fence ws (i + 1) - (w + 3 + fence ws i + 1) =
      fence ws (i + 1) - (fence ws i + 1) := by omega
  rw [between, fence_cons_succ, fence_cons_succ, hwidth, Nat.add_assoc, ← h,
    List.drop_length_add_append]
  rfl

theorem between_drawn (h : pieces.map List.length = ws.map (· + 2)) (hi : pieces[i]? = some piece) :
    between ws (drawn mark pieces) i = piece := by
  induction pieces generalizing ws i with
  | nil => simp at hi
  | cons first pieces ih =>
    cases ws with
    | nil => cases h
    | cons w ws =>
      simp only [List.map_cons, List.cons.injEq] at h
      obtain ⟨hfirst, hrest⟩ := h
      rw [drawn_cons]
      cases i with
      | zero =>
        obtain rfl : first = piece := by simpa using hi
        simp [between, ← hfirst]
      | succ i =>
        rw [between_cons_succ (by simp [hfirst])]
        exact ih hrest (by simpa using hi)

theorem newline_notMem_drawn (hmark : mark ≠ '\n') (h : ∀ piece ∈ pieces, '\n' ∉ piece) :
    '\n' ∉ drawn mark pieces := by
  simp only [drawn, List.mem_cons, List.mem_flatMap, List.mem_append, List.not_mem_nil, or_false,
    not_or, not_exists, not_and]
  exact ⟨Ne.symm hmark, fun piece hpiece => ⟨h piece hpiece, Ne.symm hmark⟩⟩

/-! ## Filling up -/

/-- The way to fill up leaves blanks before and after as `stands` says. -/
def FillsUp (stands : Nat → Nat → Prop) (fill : Nat → List Char → List Char) : Prop :=
  ∀ w cs, cs.length ≤ w → ∃ before after, stands before after ∧ before + cs.length + after = w ∧
    fill w cs = List.replicate before ' ' ++ cs ++ List.replicate after ' '

theorem fillsUp_padBoth : FillsUp Centred Text.padBoth := by
  intro w cs h
  refine ⟨(w - cs.length) / 2, w - cs.length - (w - cs.length) / 2, ?_, by omega, rfl⟩
  constructor <;> omega

theorem fillsUp_pad (align : Align) : FillsUp align.Stands (pad align) := by
  intro w cs h
  cases align with
  | left => exact ⟨0, w - cs.length, rfl, by omega, by simp [pad, Text.padRight]⟩
  | right => exact ⟨w - cs.length, 0, rfl, by omega, by simp [pad, Text.padLeft]⟩

/-! ## Rules and lines of entries -/

/-- The dashes of a rule. -/
def dashes (ws : List Nat) : List (List Char) := ws.map fun w => List.replicate (w + 2) '-'

/-- The contents of the columns in a line of entries. -/
def contents (fill : Nat → List Char → List Char) (ws : List Nat) (entries : List String) :
    List (List Char) :=
  List.zipWith (fun w entry => ' ' :: (fill w entry.toList ++ [' '])) ws entries

/-- Each entry has a column that is wide enough for it. -/
def Fits (ws : List Nat) (entries : List String) : Prop :=
  List.Forall₂ (fun w (entry : String) => entry.length ≤ w) ws entries

variable {stands : Nat → Nat → Prop} {fill : Nat → List Char → List Char} {entries : List String}

theorem isRule_drawn (ws : List Nat) : IsRule ws (drawn '+' (dashes ws)) := by
  have hlengths : (dashes ws).map List.length = ws.map (· + 2) := by simp [dashes]
  refine ⟨fenced_drawn hlengths, fun i w hi => between_drawn hlengths ?_⟩
  simp [dashes, hi]

theorem newline_notMem_rule (ws : List Nat) : '\n' ∉ drawn '+' (dashes ws) := by
  refine newline_notMem_drawn (by decide) fun piece hpiece hmem => ?_
  obtain ⟨w, -, rfl⟩ := List.mem_map.1 hpiece
  cases List.eq_of_mem_replicate hmem

theorem fills_contents (hfill : FillsUp stands fill) (h : Fits ws entries)
    (hpiece : (contents fill ws entries)[i]? = some piece) :
    ∃ w entry, ws[i]? = some w ∧ entries[i]? = some entry ∧ Fills stands w entry piece := by
  obtain ⟨w, entry, hw, hentry, rfl⟩ := List.getElem?_zipWith_eq_some.1 hpiece
  have hfits : entry.toList.length ≤ w := by
    obtain ⟨hi, rfl⟩ := List.getElem?_eq_some_iff.1 hw
    obtain ⟨hi', rfl⟩ := List.getElem?_eq_some_iff.1 hentry
    rw [String.length_toList]
    exact h.get hi hi'
  obtain ⟨before, after, hstands, hsum, heq⟩ := hfill w entry.toList hfits
  rw [String.length_toList] at hsum
  exact ⟨w, entry, hw, hentry, before, after, hstands, hsum, by rw [heq]; rfl⟩

theorem Fills.length {content : List Char} {entry : String} (h : Fills stands w entry content) :
    content.length = w + 2 := by
  obtain ⟨before, after, -, rfl, rfl⟩ := h
  simp [String.length_toList]
  omega

theorem length_contents (h : Fits ws entries) : (contents fill ws entries).length = ws.length := by
  rw [contents, List.length_zipWith, h.length_eq, Nat.min_self]

theorem map_length_contents (hfill : FillsUp stands fill) (h : Fits ws entries) :
    (contents fill ws entries).map List.length = ws.map (· + 2) := by
  refine List.ext_getElem (by simp [length_contents h]) fun i hi hi' => ?_
  rw [List.length_map] at hi
  obtain ⟨w, entry, hw, -, hfills⟩ := fills_contents hfill h (List.getElem?_eq_getElem hi)
  obtain ⟨_, rfl⟩ := List.getElem?_eq_some_iff.1 hw
  rw [List.getElem_map, List.getElem_map, hfills.length]

theorem shows_drawn (hfill : FillsUp stands fill) (h : Fits ws entries) :
    Shows stands ws entries (drawn '|' (contents fill ws entries)) := by
  have hlengths := map_length_contents hfill h
  refine ⟨fenced_drawn hlengths, fun i w entry hw hentry => ?_⟩
  have hi : i < (contents fill ws entries).length := by
    rw [length_contents h]
    exact (List.getElem?_eq_some_iff.1 hw).1
  have hpiece := List.getElem?_eq_getElem hi
  obtain ⟨w', entry', hw', hentry', hfills⟩ := fills_contents hfill h hpiece
  obtain rfl : w = w' := Option.some.inj (hw.symm.trans hw')
  obtain rfl : entry = entry' := Option.some.inj (hentry.symm.trans hentry')
  rwa [between_drawn hlengths hpiece]

theorem newline_notMem_shown (hfill : FillsUp stands fill) (h : Fits ws entries)
    (hplain : ∀ entry ∈ entries, '\n' ∉ entry.toList) :
    '\n' ∉ drawn '|' (contents fill ws entries) := by
  refine newline_notMem_drawn (by decide) fun piece hpiece => ?_
  obtain ⟨i, hi⟩ := List.mem_iff_getElem?.1 hpiece
  obtain ⟨w, entry, -, hentry, before, after, -, -, rfl⟩ := fills_contents hfill h hi
  have hentry := hplain entry (List.mem_of_getElem? hentry)
  simp [hentry]

/-! ## Widths -/

/-- The widths are those of the widest entries of the columns. -/
structure IsWidths (ws : List Nat) (rows : List (List String)) : Prop where
  bound : ∀ i w : Nat, ws[i]? = some w →
    ∀ row ∈ rows, ∀ entry : String, row[i]? = some entry → entry.length ≤ w
  attained : ∀ i w : Nat, ws[i]? = some w →
    ∃ row ∈ rows, ∃ entry : String, row[i]? = some entry ∧ entry.length = w

variable {headers row : List String} {rows : List (List String)}

theorem widen_eq (h : row.length = ws.length) :
    widen ws row = List.zipWith (fun w (entry : String) => max w entry.length) ws row := by
  induction ws generalizing row with
  | nil => cases row <;> rfl
  | cons w ws ih =>
    cases row with
    | nil => cases h
    | cons entry row => simp [widen, ih (by simpa using h)]

theorem length_widen (ws : List Nat) (row : List String) : (widen ws row).length = ws.length := by
  fun_induction widen ws row with
  | case1 w ws entry row ih => simp [ih]
  | case2 => rfl

theorem isWidths_widen (h : IsWidths ws rows) (hrow : row.length = ws.length) :
    IsWidths (widen ws row) (rows ++ [row]) := by
  have hget : ∀ i w : Nat, (widen ws row)[i]? = some w → ∃ (old : Nat) (entry : String), ws[i]? = some old ∧
      row[i]? = some entry ∧ max old entry.length = w := by
    intro i w hw
    rwa [widen_eq hrow, List.getElem?_zipWith_eq_some] at hw
  constructor
  · intro i w hw row' hrow' entry' hentry'
    obtain ⟨old, entry, hold, hentry, rfl⟩ := hget i w hw
    rcases List.mem_append.1 hrow' with hmem | hlast
    · exact Nat.le_trans (h.bound i old hold row' hmem entry' hentry') (Nat.le_max_left _ _)
    · rw [List.mem_singleton.1 hlast, hentry] at hentry'
      cases hentry'
      exact Nat.le_max_right _ _
  · intro i w hw
    obtain ⟨old, entry, hold, hentry, rfl⟩ := hget i w hw
    rcases Nat.le_total old entry.length with hle | hle
    · exact ⟨row, by simp, entry, hentry, (Nat.max_eq_right hle).symm⟩
    · obtain ⟨row', hrow', entry', hentry', hlength⟩ := h.attained i old hold
      exact ⟨row', List.mem_append_left _ hrow', entry', hentry',
        hlength.trans (Nat.max_eq_left hle).symm⟩

theorem isWidths_headers (headers : List String) :
    IsWidths (headers.map String.length) [headers] := by
  have hget : ∀ i w : Nat, (headers.map String.length)[i]? = some w → ∃ entry : String,
      headers[i]? = some entry ∧ entry.length = w := by
    intro i w hw
    rwa [List.getElem?_map, Option.map_eq_some_iff] at hw
  constructor
  · intro i w hw row hrow entry hentry
    obtain ⟨header, hheader, rfl⟩ := hget i w hw
    rw [List.mem_singleton.1 hrow, hheader] at hentry
    cases hentry
    exact Nat.le_refl _
  · intro i w hw
    obtain ⟨header, hheader, rfl⟩ := hget i w hw
    exact ⟨headers, List.mem_singleton_self _, header, hheader, rfl⟩

theorem length_widths (headers : List String) (rows : List (List String)) :
    (widths headers rows).length = headers.length := by
  induction rows using List.reverseRecOn with
  | nil => simp [widths]
  | append_singleton rows row ih =>
    rw [widths] at ih ⊢
    rw [List.foldl_concat, length_widen, ih]

theorem isWidths_widths (h : ∀ row ∈ rows, row.length = headers.length) :
    IsWidths (widths headers rows) (headers :: rows) := by
  induction rows using List.reverseRecOn with
  | nil => exact isWidths_headers headers
  | append_singleton rows row ih =>
    rw [List.forall_mem_append, List.forall_mem_singleton] at h
    have hrow : row.length = (widths headers rows).length := by rw [length_widths, h.2]
    have hwiden := isWidths_widen (ih h.1) hrow
    rwa [widths, List.foldl_concat]

theorem IsWidths.fits (h : IsWidths ws rows) (hrow : row ∈ rows) (hlength : row.length = ws.length) :
    Fits ws row := by
  refine List.forall₂_iff_get.2 ⟨hlength.symm, fun i hi hi' => ?_⟩
  exact h.bound i ws[i] (List.getElem?_eq_getElem hi) row hrow row[i] (List.getElem?_eq_getElem hi')

/-! ## Grids -/

theorem separator_eq (h : ws ≠ []) : separator ws = drawn '+' (dashes ws) ++ ['\n'] :=
  line_eq '+' (by simpa [dashes] using h)

theorem cellLine_eq (hne : ws ≠ []) (hlength : entries.length = ws.length) :
    cellLine fill ws entries = drawn '|' (contents fill ws entries) ++ ['\n'] := by
  refine line_eq '|' fun hnil => hne (List.length_eq_zero_iff.1 ?_)
  have hcontents := congrArg List.length hnil
  rwa [List.length_zipWith, hlength, Nat.min_self] at hcontents

/-- A grid with headers is its lines, a rule at the top, below the headers and below the rows. -/
theorem toList_render (align : Align) (hheaders : headers ≠ [])
    (hrows : ∀ row ∈ rows, row.length = headers.length) :
    let ws := widths headers rows
    let rule := drawn '+' (dashes ws)
    (render align headers rows).toList = Text.written
      (rule :: drawn '|' (contents Text.padBoth ws headers) :: rule ::
        rows.map (fun row => drawn '|' (contents (pad align) ws row)) ++
        if rows = [] then [] else [rule]) := by
  intro ws rule
  have hlength : ws.length = headers.length := length_widths headers rows
  have hne : ws ≠ [] := fun hnil => hheaders (List.length_eq_zero_iff.1 (by rw [← hlength, hnil]; rfl))
  have hbody : ∀ row ∈ rows, cellLine (pad align) ws row =
      drawn '|' (contents (pad align) ws row) ++ ['\n'] := fun row hrow =>
    cellLine_eq hne ((hrows row hrow).trans hlength.symm)
  have hlast : (if rows.isEmpty then [] else separator ws) =
      Text.written (if rows = [] then [] else [rule]) := by
    cases rows with
    | nil => rfl
    | cons row rows => simp [separator_eq hne, Text.written, rule]
  have hshown : (headers.isEmpty && rows.isEmpty) = false := by simp [hheaders]
  rw [render, hshown, if_neg (by simp), String.toList_ofList, hlast, separator_eq hne,
    cellLine_eq hne hlength.symm, List.flatMap_congr hbody]
  simp [Text.written, List.flatMap_map, rule, ws]

/-- The lines of a grid are rules, the headers and rows. -/
theorem forall_mem_lines {P : List Char → Prop} {rule head : List Char} {body : List (List Char)}
    (hrule : P rule) (hhead : P head) (hbody : ∀ line ∈ body, P line) :
    ∀ line ∈ rule :: head :: rule :: body ++ (if rows = [] then [] else [rule]), P line := by
  rw [List.forall_mem_append, List.forall_mem_cons, List.forall_mem_cons, List.forall_mem_cons]
  refine ⟨⟨hrule, hhead, hrule, hbody⟩, ?_⟩
  split
  · simp
  · simpa using hrule

/-- A grid with headers and with as many cells in each row, none of which holds a newline, is three
lines, one more for each row and a last one if there are rows, all of one length and cut at the same
places: rules of dashes between `+`, and the headers and the rows in order, between `|`. The
columns are as wide as their widest entries. -/
theorem render_aligned {align : Align} (hheaders : headers ≠ [])
    (hrows : ∀ row ∈ rows, row.length = headers.length)
    (hplain : ∀ row ∈ headers :: rows, ∀ entry ∈ row, '\n' ∉ entry.toList) :
    let printed := Text.physicalLines (render align headers rows).toList
    (render align headers rows).toList = Text.written printed ∧
    printed.length = 3 + rows.length + (if rows = [] then 0 else 1) ∧
    ∃ ws rule head body,
      printed = rule :: head :: rule :: body ++ (if rows = [] then [] else [rule]) ∧
      (∀ line ∈ printed, line.length = fence ws ws.length + 1) ∧
      ws.length = headers.length ∧ IsWidths ws (headers :: rows) ∧ IsRule ws rule ∧
      Shows Centred ws headers head ∧ List.Forall₂ (Shows align.Stands ws) rows body := by
  intro printed
  have hwritten := toList_render align hheaders hrows
  have hlength : (widths headers rows).length = headers.length := length_widths headers rows
  have hwidths := isWidths_widths hrows
  -- Nothing else about the widths matters below.
  generalize widths headers rows = ws at hwritten hlength hwidths
  have hfits : ∀ row ∈ headers :: rows, Fits ws row := by
    intro row hrow
    refine hwidths.fits hrow ?_
    rcases List.mem_cons.1 hrow with rfl | hmem
    · exact hlength.symm
    · rw [hrows row hmem, hlength]
  have hrule : IsRule ws (drawn '+' (dashes ws)) := isRule_drawn ws
  have hhead : Shows Centred ws headers (drawn '|' (contents Text.padBoth ws headers)) :=
    shows_drawn fillsUp_padBoth (hfits headers List.mem_cons_self)
  have hshows : ∀ row ∈ rows,
      Shows align.Stands ws row (drawn '|' (contents (pad align) ws row)) := fun row hrow =>
    shows_drawn (fillsUp_pad align) (hfits row (List.mem_cons_of_mem headers hrow))
  have hheadPlain : '\n' ∉ drawn '|' (contents Text.padBoth ws headers) :=
    newline_notMem_shown fillsUp_padBoth (hfits headers List.mem_cons_self)
      (hplain headers List.mem_cons_self)
  have hbodyPlain : ∀ row ∈ rows, '\n' ∉ drawn '|' (contents (pad align) ws row) := fun row hrow =>
    newline_notMem_shown (fillsUp_pad align) (hfits row (List.mem_cons_of_mem headers hrow))
      (hplain row (List.mem_cons_of_mem headers hrow))
  have hprinted : printed = _ := (congrArg Text.physicalLines hwritten).trans
    (Text.physicalLines_written
      (forall_mem_lines (newline_notMem_rule ws) hheadPlain (List.forall_mem_map.2 hbodyPlain)))
  refine ⟨hwritten.trans (congrArg Text.written hprinted.symm), ?_, ws, _, _, _, hprinted, ?_,
    hlength, hwidths, hrule, hhead, ?_⟩
  · rw [hprinted]
    cases rows with
    | nil => rfl
    | cons row rows =>
      simp only [List.length_append, List.length_cons, List.length_map, List.length_nil, reduceCtorEq,
        if_false]
      omega
  · rw [hprinted]
    exact forall_mem_lines hrule.length hhead.length
      (List.forall_mem_map.2 fun row hrow => (hshows row hrow).length)
  · rw [List.forall₂_map_right_iff, List.forall₂_same]
    exact hshows

example : render .right ["Name", "Größe"] [["a|b", "1"], ["", "1234567"]] =
    "+------+---------+\n" ++
    "| Name |  Größe  |\n" ++
    "+------+---------+\n" ++
    "|  a|b |       1 |\n" ++
    "|      | 1234567 |\n" ++
    "+------+---------+\n" := by decide

theorem render_aligned_sizes :
    let headers := ["Name", "Größe"]
    let rows := [["a|b", "1"], ["", "1234567"]]
    headers ≠ [] ∧ (∀ row ∈ rows, row.length = headers.length) ∧
    (∀ row ∈ headers :: rows, ∀ entry ∈ row, '\n' ∉ entry.toList) ∧
    let printed := Text.physicalLines (render .right headers rows).toList
    printed.length = 6 ∧ ∃ ws, ws.length = 2 ∧ IsWidths ws (headers :: rows) ∧
      ∀ line ∈ printed, line.length = fence ws ws.length + 1 := by
  intro headers rows
  have hheaders : headers ≠ [] := by decide
  have hrows : ∀ row ∈ rows, row.length = headers.length := by decide
  have hplain : ∀ row ∈ headers :: rows, ∀ entry ∈ row, '\n' ∉ entry.toList := by decide
  obtain ⟨-, hcount, ws, -, -, -, -, hlength, hws, hwidths, -⟩ :=
    @render_aligned _ _ .right hheaders hrows hplain
  exact ⟨hheaders, hrows, hplain, hcount, ws, hws, hwidths, hlength⟩

end Grid

end CatalogShell
