import CatalogShell.Proofs.Pattern.Glyphs
import Mathlib.Algebra.Ring.Parity

/-!
# Open quotes

A pattern ends inside quotes exactly if it has an odd number of them
(`Pattern.openQuote_compile`): a doubled quote inside quotes counts as two and leaves the reader
where it was.

So the strict mode refuses the patterns with an odd number of quotes and no others
(`PatternMode.compile_strict_of_odd`), and for the others both modes compile to the same
(`PatternMode.compile_of_even`). One more quote at the end mends a pattern that is refused, and
changes nothing else (`Pattern.compile_append_quote`).
-/

namespace CatalogShell

/-- Every quote changes the side, and nothing else does. -/
theorem glyphs_snd_eq_true_iff (inside : Bool) (cs : List Char) :
    (glyphs inside cs).2 = true ↔ (inside = true ↔ Even (cs.count '"')) := by
  induction inside, cs using glyphs.induct with
  | case1 inside => simp [glyphs]
  | case2 cs _ _ _ ih => simpa [glyphs_doubled, Nat.even_add_one] using ih
  | case3 inside cs hdoubled ih =>
    rw [glyphs_quote fun rest hin => hdoubled rest hin rfl, ih, List.count_cons_self,
      Nat.even_add_one]
    cases inside <;> simp
  | case4 inside c cs hdoubled hc _ _ _ ih =>
    rw [glyphs_char inside cs hc, ih, List.count_cons_of_ne hc]

/-- A text with an even number of quotes ends on the side on which it starts. -/
theorem glyphs_snd_of_even {cs : List Char} (inside : Bool) (h : Even (cs.count '"')) :
    (glyphs inside cs).2 = inside := by
  have hside := glyphs_snd_eq_true_iff inside cs
  cases inside <;> simp_all

namespace Pattern

variable {text : String}

theorem openQuote_eq (text : String) : (compile text).openQuote = (glyphs false text.toList).2 := by
  rcases hsplit : splitAtDot (glyphs false text.toList).1 with ⟨before, _ | after⟩
  · rw [compile_of_unsplit hsplit]
  · rw [compile_of_split hsplit]

theorem openQuote_compile (text : String) :
    (compile text).openQuote = true ↔ Odd (text.toList.count '"') := by
  rw [openQuote_eq, glyphs_snd_eq_true_iff, ← Nat.not_even_iff_odd]
  simp

/-- A quote after an open pattern closes it and is no glyph. -/
theorem compile_append_quote (h : (compile text).openQuote = true) :
    compile (text ++ "\"") = { compile text with openQuote := false } := by
  have hside : (glyphs false text.toList).2 = true := by rwa [← openQuote_eq]
  have hread : glyphs false (text ++ "\"").toList = ((glyphs false text.toList).1, false) := by
    rw [String.toList_append, glyphs_append (.inl hside), hside]
    simp [glyphs]
  have hsame : splitAtDot (glyphs false (text ++ "\"").toList).1 =
      splitAtDot (glyphs false text.toList).1 := by rw [hread]
  rcases hsplit : splitAtDot (glyphs false text.toList).1 with ⟨before, _ | after⟩
  · rw [compile_of_unsplit hsplit, compile_of_unsplit (hsame.trans hsplit), hread]
  · rw [compile_of_split hsplit, compile_of_split (hsame.trans hsplit), hread]

end Pattern

namespace PatternMode

variable {text : String}

theorem compile_strict_of_odd (h : Odd (text.toList.count '"')) :
    strict.compile text = .error (.unterminatedQuote text) := by
  simp [compile, Pattern.openQuote_compile, h]

theorem compile_of_even (mode : PatternMode) (h : Even (text.toList.count '"')) :
    mode.compile text = .ok (.compile text) := by
  have hclosed : ¬ (Pattern.compile text).openQuote = true := by
    rw [Pattern.openQuote_compile, Nat.not_odd_iff_even]
    exact h
  simp [compile, hclosed]

/-- The number of quotes decides: an odd one leaves a quote open, which the strict mode refuses
and one more quote closes, with the same filters; for an even one both modes agree. -/
theorem quote_count_decides (text : String) :
    let n := text.toList.count '"'
    ((Pattern.compile text).openQuote = true ↔ Odd n) ∧
    (strict.compile text = .error (.unterminatedQuote text) ↔ Odd n) ∧
    (¬ Odd n → strict.compile text = .ok (.compile text)) ∧
    (Odd n → ∃ closed, strict.compile (text ++ "\"") = .ok closed ∧
      closed.schemaFilter? = (Pattern.compile text).schemaFilter? ∧
      closed.nameFilter? = (Pattern.compile text).nameFilter?) := by
  intro n
  have heven (h : ¬ Odd n) : strict.compile text = .ok (.compile text) :=
    strict.compile_of_even (Nat.not_odd_iff_even.1 h)
  refine ⟨Pattern.openQuote_compile text, ⟨?_, compile_strict_of_odd⟩, heven, ?_⟩
  · intro hrefused
    by_contra hodd
    rw [heven hodd] at hrefused
    cases hrefused
  · intro hodd
    have hcount : (text ++ "\"").toList.count '"' = n + 1 := by
      rw [String.toList_append, List.count_append]
      rfl
    have hclosed : Even ((text ++ "\"").toList.count '"') := by
      rw [hcount]
      exact hodd.add_one
    refine ⟨_, strict.compile_of_even hclosed, ?_⟩
    rw [Pattern.compile_append_quote ((Pattern.openQuote_compile text).2 hodd)]
    exact ⟨rfl, rfl⟩

end PatternMode

end CatalogShell
