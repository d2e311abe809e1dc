/-!
# Searching in text

First occurrences of a piece of text in a longer one, on lists of characters.

* `after?`: what follows the first occurrence of a piece.
* `substitute`: every occurrence of a piece replaced by another.
* `splitAt`: the pieces between the occurrences of one character.
-/

namespace CatalogShell.Text

/-- What follows the first occurrence of `piece`, if there is one. -/
def after? (piece : List Char) : List Char → Option (List Char)
  | [] => if piece.isEmpty then some [] else none
  | c :: cs =>
    if piece.isPrefixOf (c :: cs) then some ((c :: cs).drop piece.length) else after? piece cs

/-- The pieces of a list between the occurrences of `sep`: one more than there are
occurrences. -/
def splitAt {α : Type} [DecidableEq α] (sep : α) : List α → List (List α)
  | [] => [[]]
  | c :: cs =>
    if c = sep then [] :: splitAt sep cs
    else match splitAt sep cs with
      | [] => [[c]]
      | piece :: rest => (c :: piece) :: rest

/-- The pieces of a text between the occurrences of `sep`. -/
def split (sep : Char) (s : String) : List String := (splitAt sep s.toList).map String.ofList

/-- A text cut at the first occurrence of `sep`, which belongs to neither part. -/
def cutAt (sep : Char) (cs : List Char) : List Char × Option (List Char) :=
  (cs.takeWhile (· ≠ sep),
    match cs.dropWhile (· ≠ sep) with
    | [] => none
    | _ :: rest => some rest)

theorem cutAt_length_lt {sep : Char} {cs before rest : List Char}
    (h : cutAt sep cs = (before, some rest)) : rest.length < cs.length := by
  have h1 := (List.dropWhile_sublist (l := cs) (· ≠ sep)).length_le
  simp only [cutAt, Prod.mk.injEq] at h
  split at h
  · simp at h
  · next heq =>
    rw [heq, List.length_cons, Option.some.inj h.2] at h1
    omega

/-- A line without the carriage return that ends it. -/
def dropCarriageReturn (line : List Char) : List Char :=
  if line.getLast? = some '\r' then line.dropLast else line

/-- The lines of a text. A line ends at a newline or at a carriage return and newline; what
follows the last newline is a line of its own unless it is empty. -/
def lines (cs : List Char) : List (List Char) :=
  let pieces := splitAt '\n' cs
  let last := pieces.getLast?.getD []
  pieces.dropLast.map dropCarriageReturn ++ if last.isEmpty then [] else [last]

end CatalogShell.Text
