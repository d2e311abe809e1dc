/-!
# Blank characters

`isBlank` is the Unicode property `White_Space`. Command lines are split into words at blanks,
and their ends are trimmed of blanks.

* `trim`: a text without the blanks at its two ends.
* `leadingWord`: the text before the first blank; `afterLeadingWord`: the rest.
-/

namespace CatalogShell.Text

/-- The Unicode property `White_Space`. -/
def isBlank (c : Char) : Bool :=
  let n := c.toNat
  (9 ≤ n && n ≤ 13) || n == 0x20 || n == 0x85 || n == 0xA0 || n == 0x1680 ||
    (0x2000 ≤ n && n ≤ 0x200A) || n == 0x2028 || n == 0x2029 || n == 0x202F || n == 0x205F ||
    n == 0x3000

/-- The characters without the blanks at the end. -/
def dropBlankEnd (cs : List Char) : List Char := (cs.reverse.dropWhile isBlank).reverse

/-- The characters without the blanks at either end. -/
def trimChars (cs : List Char) : List Char := dropBlankEnd (cs.dropWhile isBlank)

/-- A text without the blanks at either end. -/
def trim (s : String) : String := String.ofList (trimChars s.toList)

/-- The characters before the first blank. -/
def leadingWord (cs : List Char) : List Char := cs.takeWhile (!isBlank ·)

/-- The characters from the first blank on. -/
def afterLeadingWord (cs : List Char) : List Char := cs.dropWhile (!isBlank ·)

/-- The leading word and what follows it make up the text. -/
theorem leadingWord_append_afterLeadingWord (cs : List Char) :
    leadingWord cs ++ afterLeadingWord cs = cs := List.takeWhile_append_dropWhile

/-- Every character that counts as ASCII whitespace is blank. -/
theorem isBlank_of_isWhitespace {c : Char} (h : c.isWhitespace) : isBlank c := by
  simp only [Char.isWhitespace, Bool.or_eq_true, decide_eq_true_eq] at h
  rcases h with ((rfl | rfl) | rfl) | rfl <;> decide

end CatalogShell.Text
