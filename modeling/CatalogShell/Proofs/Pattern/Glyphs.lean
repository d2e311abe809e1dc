import CatalogShell.Pattern.Basic

/-!
# Reading a pattern as glyphs

`glyphs` is a reader with one flag, the side of the quotes that it is on. What it makes of the
first characters of a text:

* `glyphs_doubled`: two quotes inside quotes are one quoted quote;
* `glyphs_quote`: any other quote changes the side and is no glyph;
* `glyphs_char`: every other character is a glyph of the side it is on.

`glyphs_append` puts readings together: the second of two texts is read from the side on which the
first ends. What a pattern is compiled to follows from its glyphs (`Pattern.compile_of_split`,
`Pattern.compile_of_unsplit`).
-/

namespace CatalogShell

variable {inside : Bool} {c : Char} {cs ds : List Char}

theorem glyphs_doubled (cs : List Char) :
    glyphs true ('"' :: '"' :: cs) = (.quoted '"' :: (glyphs true cs).1, (glyphs true cs).2) := by
  rw [glyphs]

theorem glyphs_quote (h : ∀ rest, inside = true → cs ≠ '"' :: rest) :
    glyphs inside ('"' :: cs) = glyphs (!inside) cs := by
  rw [glyphs, if_pos rfl]
  exact fun rest hin _ => h rest hin

theorem glyphs_char (inside : Bool) (cs : List Char) (h : c ≠ '"') :
    glyphs inside (c :: cs) =
      ((if inside then .quoted c else .bare c) :: (glyphs inside cs).1, (glyphs inside cs).2) := by
  rw [glyphs, if_neg h]
  exact fun _ _ hc => absurd hc h

/-- Two texts one after the other are read one after the other. A quote at the end of the first
that leaves the quotes may not meet a quote at the start of the second: they would be a doubled
quote. -/
theorem glyphs_append (h : (glyphs inside cs).2 = true ∨ ds.head? ≠ some '"') :
    glyphs inside (cs ++ ds) =
      ((glyphs inside cs).1 ++ (glyphs (glyphs inside cs).2 ds).1,
        (glyphs (glyphs inside cs).2 ds).2) := by
  induction inside, cs using glyphs.induct with
  | case1 inside => simp [glyphs]
  | case2 cs _ _ _ ih =>
    rw [glyphs_doubled] at h ⊢
    rw [List.cons_append, List.cons_append, glyphs_doubled, ih h]
    rfl
  | case3 inside cs hdoubled ih =>
    have hquote := glyphs_quote fun rest hin => hdoubled rest hin rfl
    rw [hquote] at h ⊢
    have hseam : ∀ rest, inside = true → cs ++ ds ≠ '"' :: rest := by
      intro rest hin heq
      cases cs with
      | nil =>
        -- This quote is the last character of the first text, and closes the quotes.
        subst hin
        have hhead : ds.head? = some '"' := by simpa using congrArg List.head? heq
        simp [glyphs, hhead] at h
      | cons c cs =>
        obtain ⟨rfl, -⟩ := List.cons.inj heq
        exact hdoubled cs hin rfl rfl
    rw [List.cons_append, glyphs_quote hseam, ih h]
  | case4 inside c cs hdoubled hc _ _ _ ih =>
    rw [glyphs_char inside cs hc] at h ⊢
    rw [List.cons_append, glyphs_char inside _ hc, ih h]
    rfl

namespace Pattern

variable {text : String} {schema name : List Glyph}

theorem compile_of_unsplit (h : splitAtDot (glyphs false text.toList).1 = (name, none)) :
    compile text = ⟨[], bodyOf name, (glyphs false text.toList).2⟩ := by
  simp [compile, h]

theorem compile_of_split (h : splitAtDot (glyphs false text.toList).1 = (schema, some name)) :
    compile text = ⟨bodyOf schema, bodyOf name, (glyphs false text.toList).2⟩ := by
  simp [compile, h]

end Pattern

end CatalogShell
