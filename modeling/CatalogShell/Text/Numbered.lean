import CatalogShell.Text.Search

/-!
# Numbered lines

The source text of a function with a gutter of at least seven characters and a space before
each line. Numbers start with 1 at the first line that begins with `AS `; the gutter of the
lines before it is blank.
-/

namespace CatalogShell.Text

/-- A text filled up with blanks on the right. -/
def padRight (width : Nat) (cs : List Char) : List Char :=
  cs ++ List.replicate (width - cs.length) ' '

/-- A line of the output: gutter, space and line. -/
def gutterLine (gutter line : List Char) : List Char :=
  padRight 7 gutter ++ ' ' :: (line ++ ['\n'])

/-- Numbering starts at this line. -/
def startsBody (line : List Char) : Bool := ['A', 'S', ' '].isPrefixOf line

/-- Lines of which the first has the number `n`. -/
def numberFrom : Nat → List (List Char) → List Char
  | _, [] => []
  | n, line :: rest => gutterLine n.repr.toList line ++ numberFrom (n + 1) rest

/-- Lines that are numbered from the first one on that starts the body. -/
def numberBody : List (List Char) → List Char
  | [] => []
  | line :: rest =>
    if startsBody line then numberFrom 1 (line :: rest)
    else gutterLine [] line ++ numberBody rest

/-- A source text with its lines numbered. -/
def numberLines (source : String) : String :=
  String.ofList (numberBody (splitAt '\n' source.toList))

end CatalogShell.Text
