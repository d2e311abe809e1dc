import CatalogShell.Render.Grid
import CatalogShell.Report.Basic
import CatalogShell.Text.Search

/-!
# Reports as text

The title, the grid of columns, and the blocks of the footer. A block of one line of text stands
behind its heading; the lines of other blocks follow their heading, indented.
-/

namespace CatalogShell

/-- An entry of a block below its heading: each line of its text, indented. -/
def indentEntry (entry : String) : String :=
  String.join ((Text.lines entry.toList).map fun line => "    " ++ String.ofList line ++ "\n")

/-- A block of the footer. -/
def Block.render (b : Block) : String :=
  match b.lines with
  | [entry] =>
    if entry.toList.contains '\n' then b.heading ++ ":\n" ++ indentEntry entry
    else b.heading ++ ": " ++ entry ++ "\n"
  | entries => b.heading ++ ":\n" ++ String.join (entries.map indentEntry)

/-- A report as text. -/
def Report.render (r : Report) : String :=
  r.title ++ "\n" ++ Grid.render .left r.headers r.rows ++
    String.join (r.footer.blocks.map Block.render)

end CatalogShell
