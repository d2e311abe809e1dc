import CatalogShell.Proofs.Pattern.Glob
import CatalogShell.Proofs.Pattern.OpenQuote

/-!
# Qualified patterns

The dot of a qualified pattern separates two patterns that do not see each other. A text that ends
outside quotes is read up to its end as if nothing followed (`glyphs_dotted`), and the first bare
dot is where the glyphs are split (`splitAtDot_append`). So the schema filter is made of the text
before the dot alone, and the name filter of the text after it (`Pattern.compile_dotted`).

`Pattern.dotted_filters_apart`: they are the filters that the two texts have as patterns of their
own, whatever syntax of regular expressions stands in them.
-/

namespace CatalogShell

theorem splitAtDot_of_notMem {gs : List Glyph} (h : .bare '.' ∉ gs) :
    splitAtDot gs = (gs, none) := by
  induction gs with
  | nil => rfl
  | cons g gs ih =>
    rw [List.mem_cons, not_or] at h
    rw [splitAtDot, if_neg (Ne.symm h.1), ih h.2]

theorem splitAtDot_append {gs : List Glyph} (rest : List Glyph) (h : .bare '.' ∉ gs) :
    splitAtDot (gs ++ .bare '.' :: rest) = (gs, some rest) := by
  induction gs with
  | nil => rfl
  | cons g gs ih =>
    rw [List.mem_cons, not_or] at h
    rw [List.cons_append, splitAtDot, if_neg (Ne.symm h.1), ih h.2]

/-- A dot after a text that ends outside quotes is bare, and reading starts anew after it. -/
theorem glyphs_dotted {cs : List Char} (ds : List Char) (h : (glyphs false cs).2 = false) :
    glyphs false (cs ++ '.' :: ds) =
      ((glyphs false cs).1 ++ .bare '.' :: (glyphs false ds).1, (glyphs false ds).2) := by
  rw [glyphs_append (.inr (by simp)), h, glyphs_char false ds (by decide)]
  rfl

/-- A text without a dot outside quotes has no bare dot among its glyphs. -/
theorem dot_notMem_glyphs {cs : List Char} (h : '.' ∉ Glob.unquoted false cs) :
    .bare '.' ∉ (glyphs false cs).1 :=
  fun hmem => h (Glob.mem_unquoted_of_bare hmem)

namespace Pattern

variable {p q : String}

theorem compile_undotted (h : .bare '.' ∉ (glyphs false p.toList).1) :
    compile p = ⟨[], bodyOf (glyphs false p.toList).1, (glyphs false p.toList).2⟩ :=
  compile_of_unsplit (splitAtDot_of_notMem h)

/-- The text before the dot makes up the schema filter, the text after it the name filter. -/
theorem compile_dotted (q : String) (hdot : .bare '.' ∉ (glyphs false p.toList).1)
    (hside : (glyphs false p.toList).2 = false) :
    compile (p ++ "." ++ q) =
      ⟨bodyOf (glyphs false p.toList).1, bodyOf (glyphs false q.toList).1,
        (glyphs false q.toList).2⟩ := by
  have htext : (p ++ "." ++ q).toList = p.toList ++ '.' :: q.toList := by simp
  have hread := glyphs_dotted q.toList hside
  rw [← htext] at hread
  have hsplit : splitAtDot (glyphs false (p ++ "." ++ q).toList).1 =
      ((glyphs false p.toList).1, some (glyphs false q.toList).1) := by
    rw [hread]
    exact splitAtDot_append _ hdot
  rw [compile_of_split hsplit, hread]

/-- A qualified pattern filters schemas as the text before its dot filters names, and names as the
text after it does. No other name part changes the schema filter, and no other schema part the name
filter. -/
theorem dotted_filters_apart (p q : String) (hp : '.' ∉ Glob.unquoted false p.toList)
    (hq : '.' ∉ Glob.unquoted false q.toList) (hquotes : Even (p.toList.count '"')) :
    (compile (p ++ "." ++ q)).schemaFilter? = (compile p).nameFilter? ∧
    (compile (p ++ "." ++ q)).nameFilter? = (compile q).nameFilter? ∧
    (compile (p ++ "." ++ q)).openQuote = (compile q).openQuote ∧
    (∀ r, (compile (p ++ "." ++ r)).schemaFilter? = (compile (p ++ "." ++ q)).schemaFilter?) ∧
    (∀ r, '.' ∉ Glob.unquoted false r.toList → Even (r.toList.count '"') →
      (compile (r ++ "." ++ q)).nameFilter? = (compile (p ++ "." ++ q)).nameFilter?) := by
  have hside := glyphs_snd_of_even false hquotes
  have hdotted (r : String) := compile_dotted r (dot_notMem_glyphs hp) hside
  have hschema := compile_undotted (dot_notMem_glyphs hp)
  have hname := compile_undotted (dot_notMem_glyphs hq)
  refine ⟨?_, ?_, ?_, ?_, ?_⟩
  · rw [hdotted, hschema]
    rfl
  · rw [hdotted, hname]
    rfl
  · rw [hdotted, hname]
  · intro r
    rw [hdotted, hdotted]
    rfl
  · intro r hr hrquotes
    rw [hdotted, compile_dotted q (dot_notMem_glyphs hr) (glyphs_snd_of_even false hrquotes)]
    rfl

theorem dotted_filters_apart_alternatives :
    '.' ∉ Glob.unquoted false "\"A.b\"|c".toList ∧ '.' ∉ Glob.unquoted false "(d\"e.f".toList ∧
    Even ("\"A.b\"|c".toList.count '"') ∧
    (compile "\"A.b\"|c.(d\"e.f").schemaFilter? = (compile "\"A.b\"|c").nameFilter? ∧
    (compile "\"A.b\"|c.(d\"e.f").nameFilter? = (compile "(d\"e.f").nameFilter? ∧
    (compile "\"A.b\"|c.(d\"e.f").openQuote = true := by
  have hp : '.' ∉ Glob.unquoted false "\"A.b\"|c".toList := by decide
  have hq : '.' ∉ Glob.unquoted false "(d\"e.f".toList := by decide
  have hquotes : Even ("\"A.b\"|c".toList.count '"') := by decide
  obtain ⟨hschema, hname, hopen, -⟩ := dotted_filters_apart _ _ hp hq hquotes
  exact ⟨hp, hq, hquotes, hschema, hname, hopen⟩

end Pattern

end CatalogShell
