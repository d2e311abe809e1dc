import Mathlib.Algebra.Ring.Parity
import Mathlib.Data.List.DropRight
import Mathlib.Data.List.Induction

/-!
# Backslashes before a character

A character is escaped if the number of backslashes right before it is odd. A reader that takes
escapes whole does not change that for the characters that it leaves: what it takes off the text
ends with an even number of backslashes (`TakesWhole`).
-/

namespace CatalogShell.Regex

/-- How many backslashes the text ends with. -/
def backslashesAtEnd (cs : List Char) : Nat := (cs.rtakeWhile (· = '\\')).length

theorem backslashesAtEnd_concat (cs : List Char) (c : Char) :
    backslashesAtEnd (cs ++ [c]) = if c = '\\' then backslashesAtEnd cs + 1 else 0 := by
  by_cases hc : c = '\\'
  · simp [backslashesAtEnd, hc]
  · simp [backslashesAtEnd, hc]

theorem backslashesAtEnd_of_notMem {cs : List Char} (h : '\\' ∉ cs) : backslashesAtEnd cs = 0 := by
  rcases List.eq_nil_or_concat cs with rfl | ⟨front, last, rfl⟩
  · rfl
  · rw [List.concat_eq_append] at h ⊢
    rw [backslashesAtEnd_concat, if_neg]
    rintro rfl
    exact h (by simp)

/-- A text in front that ends with an even number of backslashes makes no difference. -/
theorem even_backslashesAtEnd_append {front : List Char} (h : Even (backslashesAtEnd front))
    (cs : List Char) :
    Even (backslashesAtEnd (front ++ cs)) ↔ Even (backslashesAtEnd cs) := by
  induction cs using List.reverseRecOn with
  | nil => simpa [backslashesAtEnd] using h
  | append_singleton cs c ih =>
    rw [← List.append_assoc, backslashesAtEnd_concat, backslashesAtEnd_concat]
    by_cases hc : c = '\\'
    · rw [if_pos hc, if_pos hc, Nat.even_add_one, Nat.even_add_one, ih]
    · rw [if_neg hc, if_neg hc]

/-- What is taken off the text to leave the rest ends with an even number of backslashes. -/
def TakesWhole (cs rest : List Char) : Prop :=
  ∃ taken, cs = taken ++ rest ∧ Even (backslashesAtEnd taken)

namespace TakesWhole

variable {c : Char} {cs rest rest' : List Char}

theorem refl (cs : List Char) : TakesWhole cs cs := ⟨[], rfl, Even.zero⟩

theorem trans (h : TakesWhole cs rest) (h' : TakesWhole rest rest') : TakesWhole cs rest' := by
  obtain ⟨taken, rfl, heven⟩ := h
  obtain ⟨taken', rfl, heven'⟩ := h'
  exact ⟨taken ++ taken', by rw [List.append_assoc],
    (even_backslashesAtEnd_append heven taken').2 heven'⟩

theorem suffix (h : TakesWhole cs rest) : rest <:+ cs := by
  obtain ⟨taken, rfl, -⟩ := h
  exact List.suffix_append taken rest

/-- The last character that is taken is no backslash. -/
theorem of_suffix (hc : c ≠ '\\') (h : c :: rest <:+ cs) : TakesWhole cs rest := by
  obtain ⟨front, rfl⟩ := h
  refine ⟨front ++ [c], by simp, ?_⟩
  rw [backslashesAtEnd_concat, if_neg hc]
  exact Even.zero

theorem cons (hc : c ≠ '\\') (h : TakesWhole cs rest) : TakesWhole (c :: cs) rest :=
  (of_suffix hc List.suffix_rfl).trans h

/-- An escaped backslash is taken whole. -/
theorem doubled (h : TakesWhole cs rest) : TakesWhole ('\\' :: '\\' :: cs) rest :=
  trans ⟨['\\', '\\'], rfl, by decide⟩ h

end TakesWhole

end CatalogShell.Regex
