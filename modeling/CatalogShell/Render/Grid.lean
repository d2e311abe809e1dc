import CatalogShell.Text.Numbered

/-!
# Grids

A table drawn with `-`, `+` and `|`. Every column is as wide as its longest cell or header, in
characters, with a space on each side. Headers are centred, with the odd space on the right.
Cells without a header are not drawn.
-/

namespace CatalogShell

/-- The side at which the cells of a grid stand. -/
inductive Align where
  | left
  | right
deriving DecidableEq, Repr

namespace Text

/-- A text filled up with blanks on the left. -/
def padLeft (width : Nat) (cs : List Char) : List Char :=
  List.replicate (width - cs.length) ' ' ++ cs

/-- A text filled up with blanks on both sides, the odd one on the right. -/
def padBoth (width : Nat) (cs : List Char) : List Char :=
  let free := width - cs.length
  List.replicate (free / 2) ' ' ++ cs ++ List.replicate (free - free / 2) ' '

end Text

namespace Grid

/-- The widths after a row, which widens the columns that it has longer cells for. -/
def widen : List Nat → List String → List Nat
  | w :: ws, cell :: cells => max w cell.length :: widen ws cells
  | ws, _ => ws

/-- The widths of the columns. -/
def widths (headers : List String) (rows : List (List String)) : List Nat :=
  rows.foldl widen (headers.map String.length)

/-- Pieces with `mark` around and between them, as a line. -/
def line (mark : Char) (pieces : List (List Char)) : List Char :=
  mark :: ([mark].intercalate pieces ++ [mark, '\n'])

/-- A line that separates rows. -/
def separator (ws : List Nat) : List Char :=
  line '+' (ws.map fun w => List.replicate (w + 2) '-')

/-- A line of cells that are filled up to the widths by `pad`. -/
def cellLine (pad : Nat → List Char → List Char) (ws : List Nat) (cells : List String) :
    List Char :=
  line '|' (List.zipWith (fun w cell => ' ' :: (pad w cell.toList ++ [' '])) ws cells)

/-- The way to fill up the cells of a row. -/
def pad : Align → Nat → List Char → List Char
  | .left => Text.padRight
  | .right => Text.padLeft

/-- A grid; nothing at all when there are neither headers nor rows. -/
def render (align : Align) (headers : List String) (rows : List (List String)) : String :=
  let ws := widths headers rows
  if headers.isEmpty && rows.isEmpty then ""
  else String.ofList (
    separator ws ++ cellLine Text.padBoth ws headers ++ separator ws ++
    rows.flatMap (cellLine (pad align) ws) ++ if rows.isEmpty then [] else separator ws)

end Grid

end CatalogShell
