import CatalogShell.Proofs.Text.Lines
import CatalogShell.Render.Report
import Mathlib.Data.List.Basic

/-!
# Reading footers back

The blocks of a footer can be read off the lines that are printed for it. A line that is not
indented and has text behind its heading is a block of one line; a line with a heading alone starts
a block of the indented lines that follow it (`readBlocks?`). What is read are the blocks with their
texts cut into physical lines (`Block.physical`).

Headings have no colon and start with no blank (`isHeading_of_mem_blocks`), and every line of a
longer block is indented, so that no text is taken for a heading, whatever it holds.

* `Block.Reads`: what is printed for a block is read as the block, in front of any blocks that are
  read behind it.
* `Report.footer_reads_back`: the lines below the columns of a report give the blocks of its footer.
-/

namespace CatalogShell

/-! ## Reading -/

/-- A line without its indentation, if it is indented. -/
def unindent? : List Char → Option (List Char)
  | ' ' :: ' ' :: ' ' :: ' ' :: line => some line
  | _ => none

/-- The indented lines at the start of the lines, and the blocks that follow. None if a line that is
not indented has no heading, or if indented lines follow a heading with text. -/
def readBlocks? : List (List Char) → Option (List String × List Block)
  | [] => some ([], [])
  | line :: rest => do
    let (indented, blocks) ← readBlocks? rest
    match unindent? line with
    | some text => return (String.ofList text :: indented, blocks)
    | none =>
      match Text.cutAt ':' line, indented with
      | (heading, some []), lines => return ([], ⟨String.ofList heading, lines⟩ :: blocks)
      | (heading, some (' ' :: text)), [] =>
        return ([], ⟨String.ofList heading, [String.ofList text]⟩ :: blocks)
      | _, _ => none

/-- A block with its texts cut into physical lines. -/
def Block.physical (b : Block) : Block where
  heading := b.heading
  lines := b.lines.flatMap fun text => (Text.physicalLines text.toList).map String.ofList

/-- A heading can be told from the text behind it and from indented lines. -/
structure IsHeading (heading : List Char) : Prop where
  colon : ':' ∉ heading
  newline : '\n' ∉ heading
  blank : ' ' ∉ heading.head?

variable {heading text : List Char} {ls rest : List (List Char)} {lines : List String}
  {blocks : List Block} {b : Block}

theorem IsHeading.unindent? (h : IsHeading heading) (text : List Char) :
    unindent? (heading ++ ':' :: text) = none := by
  cases heading with
  | nil => rfl
  | cons c heading =>
    have hc : c ≠ ' ' := by simpa using h.blank
    simp [CatalogShell.unindent?, hc]

theorem readBlocks?_heading (h : IsHeading heading) (hrest : readBlocks? rest = some (lines, blocks)) :
    readBlocks? ((heading ++ [':']) :: rest) = some ([], ⟨String.ofList heading, lines⟩ :: blocks) := by
  rw [readBlocks?, hrest, h.unindent?, Text.cutAt_append h.colon]
  rfl

theorem readBlocks?_headed (h : IsHeading heading) (hrest : readBlocks? rest = some ([], blocks)) :
    readBlocks? ((heading ++ ':' :: ' ' :: text) :: rest) =
      some ([], ⟨String.ofList heading, [String.ofList text]⟩ :: blocks) := by
  rw [readBlocks?, hrest, h.unindent?, Text.cutAt_append h.colon]
  rfl

/-- Four blanks in front of a line. -/
def indent (line : List Char) : List Char := ' ' :: ' ' :: ' ' :: ' ' :: line

theorem readBlocks?_indented (hrest : readBlocks? rest = some (lines, blocks)) :
    readBlocks? (ls.map indent ++ rest) = some (ls.map String.ofList ++ lines, blocks) := by
  induction ls with
  | nil => exact hrest
  | cons line ls ih =>
    rw [List.map_cons, List.cons_append, readBlocks?, ih]
    rfl

/-! ## Printed blocks -/

/-- Lines that are printed for a block are read as the block, in front of any that follow. -/
structure Block.Reads (b : Block) (printed : List (List Char)) : Prop where
  newline : ∀ line ∈ printed, '\n' ∉ line
  read : ∀ rest blocks, readBlocks? rest = some ([], blocks) →
    readBlocks? (printed ++ rest) = some ([], b.physical :: blocks)

/-- A text that can be told from its lines. -/
def IsFooterText (text : String) : Prop := text ≠ "" ∧ '\r' ∉ text.toList

namespace Block

theorem reads_headed {entry : String} (hheading : IsHeading b.heading.toList)
    (hentry : entry ≠ "") (hplain : '\n' ∉ entry.toList) (hlines : b.lines = [entry]) :
    b.Reads [b.heading.toList ++ ':' :: ' ' :: entry.toList] where
  newline := by
    rw [List.forall_mem_singleton]
    simp [hheading.newline, hplain]
  read rest blocks hrest := by
    have hphysical : Text.physicalLines entry.toList = [entry.toList] :=
      Text.physicalLines_of_notMem hplain (by simpa using hentry)
    rw [List.singleton_append, readBlocks?_headed hheading hrest]
    simp [physical, hlines, hphysical]

/-- The indented lines of a block. -/
def indentedLines (b : Block) : List (List Char) :=
  (b.lines.flatMap fun text => Text.physicalLines text.toList).map indent

theorem newline_notMem_indentedLines : ∀ line ∈ b.indentedLines, '\n' ∉ line := by
  intro line hline
  obtain ⟨inner, hinner, rfl⟩ := List.mem_map.1 hline
  obtain ⟨text, -, hphysical⟩ := List.mem_flatMap.1 hinner
  simpa [indent] using Text.notMem_of_mem_physicalLines hphysical

theorem reads_heading (hheading : IsHeading b.heading.toList) :
    b.Reads ((b.heading.toList ++ [':']) :: b.indentedLines) where
  newline := by
    rw [List.forall_mem_cons]
    exact ⟨by simp [hheading.newline], newline_notMem_indentedLines⟩
  read rest blocks hrest := by
    rw [List.cons_append, indentedLines,
      readBlocks?_heading hheading (readBlocks?_indented hrest)]
    simp [physical, List.map_flatMap]

theorem toList_indentEntry {entry : String} (h : '\r' ∉ entry.toList) :
    (indentEntry entry).toList = Text.written ((Text.physicalLines entry.toList).map indent) := by
  simp [indentEntry, Text.lines_eq_physicalLines h, Text.written, List.flatMap_map, indent]

theorem toList_join_indentEntry (h : ∀ text ∈ b.lines, '\r' ∉ text.toList) :
    (String.join (b.lines.map indentEntry)).toList = Text.written b.indentedLines := by
  have hentries := List.flatMap_congr fun text htext => toList_indentEntry (h text htext)
  simp only [String.toList_join, List.flatMap_map, hentries]
  simp [Text.written, indentedLines, List.flatMap_map, List.flatMap_assoc]

/-- A block is printed behind its heading if it is one text on one line, and below it otherwise. -/
theorem render_eq (b : Block) :
    (∃ entry, b.lines = [entry] ∧ '\n' ∉ entry.toList ∧
      b.render = b.heading ++ ": " ++ entry ++ "\n") ∨
    b.render = b.heading ++ ":\n" ++ String.join (b.lines.map indentEntry) := by
  unfold render
  split
  · next entry hlines =>
    rw [hlines]
    split
    · exact .inr (by simp)
    · next hplain => exact .inl ⟨entry, rfl, by simpa using hplain, rfl⟩
  · exact .inr rfl

/-- What is printed for a block can be read back. -/
theorem exists_reads (hheading : IsHeading b.heading.toList)
    (h : ∀ text ∈ b.lines, IsFooterText text) :
    ∃ printed, b.render.toList = Text.written printed ∧ b.Reads printed := by
  -- The layout that was chosen is told from the text: both are read as the same block.
  obtain ⟨entry, hlines, hplain, hrender⟩ | hrender := b.render_eq
  · have hentry : IsFooterText entry := h entry (by simp [hlines])
    refine ⟨_, ?_, reads_headed hheading hentry.1 hplain hlines⟩
    simp [hrender]
  · refine ⟨_, ?_, reads_heading hheading⟩
    rw [hrender, String.toList_append, toList_join_indentEntry fun text htext => (h text htext).2]
    simp

end Block

/-- Blocks that are printed one after the other are read back one after the other. -/
theorem exists_readBlocks? {bs : List Block} (hheadings : ∀ b ∈ bs, IsHeading b.heading.toList)
    (h : ∀ b ∈ bs, ∀ text ∈ b.lines, IsFooterText text) :
    ∃ printed, (String.join (bs.map Block.render)).toList = Text.written printed ∧
      (∀ line ∈ printed, '\n' ∉ line) ∧
      readBlocks? printed = some ([], bs.map Block.physical) := by
  induction bs with
  | nil => exact ⟨[], rfl, by simp, rfl⟩
  | cons b bs ih =>
    rw [List.forall_mem_cons] at hheadings h
    obtain ⟨first, hfirst, hreads⟩ := Block.exists_reads hheadings.1 h.1
    obtain ⟨printed, hprinted, hplain, hread⟩ := ih hheadings.2 h.2
    refine ⟨first ++ printed, ?_, ?_, hreads.read _ _ hread⟩
    · rw [Text.written_append, ← hfirst, ← hprinted]
      simp
    · exact List.forall_mem_append.2 ⟨hreads.newline, hplain⟩

/-! ## Footers -/

namespace Footer

theorem isHeading_of_mem_listBlock {heading : String} (h : IsHeading heading.toList)
    (lines : List String) : ∀ b ∈ listBlock heading lines, IsHeading b.heading.toList := by
  unfold listBlock
  split
  · simp
  · simpa using h

theorem isHeading_of_mem_blocks (f : Footer) : ∀ b ∈ f.blocks, IsHeading b.heading.toList := by
  unfold blocks firingBlocks
  repeat' refine List.forall_mem_append.2 ⟨?_, ?_⟩
  all_goals exact isHeading_of_mem_listBlock ⟨by simp, by simp, by simp⟩ _

end Footer

/-- The footer that is read from the lines below the columns of a report. -/
def Footer.read? (printed : List Char) : Option (List Block) :=
  match readBlocks? (Text.physicalLines printed) with
  | some ([], blocks) => some blocks
  | _ => none

namespace Report

/-- Below the columns of a report stands the footer. Reading it gives every block that is shown, in
order, with its heading and the physical lines of its texts, if no text is empty or has a carriage
return. -/
theorem footer_reads_back (r : Report) (h : ∀ b ∈ r.footer.blocks, ∀ text ∈ b.lines,
      text ≠ "" ∧ '\r' ∉ text.toList) :
    ∃ printed, r.render = r.title ++ "\n" ++ Grid.render .left r.headers r.rows ++ printed ∧
      Footer.read? printed.toList = some (r.footer.blocks.map Block.physical) := by
  obtain ⟨ls, hprinted, hplain, hread⟩ :=
    exists_readBlocks? r.footer.isHeading_of_mem_blocks h
  refine ⟨_, rfl, ?_⟩
  rw [Footer.read?, hprinted, Text.physicalLines_written hplain, hread]

/-- The definition holds lines that look like headings and like indented lines. -/
theorem footer_reads_back_view :
    let r : Report := {
      schema := "app", name := "v", kind := .view, headers := []
      footer := {
        viewDefinition := some "SELECT 1\n\n    Rules: a\nIndexes:\n", options := some " x: y"
        rules := { enabled := ["Triggers:", "b\nc"] } } }
    (∀ b ∈ r.footer.blocks, ∀ text ∈ b.lines, text ≠ "" ∧ '\r' ∉ text.toList) ∧
    ∃ printed, r.render = "View \"app.v\"\n" ++ printed ∧
      Footer.read? printed.toList = some [
        ⟨"View definition", ["SELECT 1", "", "    Rules: a", "Indexes:"]⟩,
        ⟨"Rules", ["Triggers:", "b", "c"]⟩, ⟨"Options", [" x: y"]⟩] := by
  intro r
  have htexts : ∀ b ∈ r.footer.blocks, ∀ text ∈ b.lines, text ≠ "" ∧ '\r' ∉ text.toList := by
    decide
  obtain ⟨printed, hrender, hread⟩ := footer_reads_back r htexts
  have htop : r.title ++ "\n" ++ Grid.render .left r.headers r.rows = "View \"app.v\"\n" := by decide
  have hblocks : r.footer.blocks.map Block.physical = [
      ⟨"View definition", ["SELECT 1", "", "    Rules: a", "Indexes:"]⟩,
      ⟨"Rules", ["Triggers:", "b", "c"]⟩, ⟨"Options", [" x: y"]⟩] := by decide
  exact ⟨htexts, printed, by rw [hrender, htop], by rw [hread, hblocks]⟩

end Report

end CatalogShell
