import CatalogShell.Text.Identifier
import CatalogShell.Text.Search
import Mathlib.Data.List.Infix

/-!
# First occurrences

* `FollowsFirst piece cs rest`: the rest is what follows the first occurrence of the piece in the
  text. `after?_eq_some_iff`, `after?_eq_none_iff`: this is what `after?` finds, and it finds nothing
  only where the piece does not occur.
* `after?_append_iff`: when an occurrence that is known is the first. It is if the piece does not
  occur in what stands before it, continued by the piece without its last character.
* `infix_separated_iff`: an occurrence does not reach across a character that the piece does not
  have. Doubling the quotes of a text makes no difference to a piece without quotes
  (`infix_doubleQuotes_iff`).
-/

namespace CatalogShell

namespace Text

variable {piece cs rest : List Char} {c : Char}

/-- The rest follows the first occurrence of the piece in the text. -/
def FollowsFirst (piece cs rest : List Char) : Prop :=
  ∃ before, cs = before ++ (piece ++ rest) ∧
    ∀ before' rest', cs = before' ++ (piece ++ rest') → before.length ≤ before'.length

/-! ## The search -/

theorem followsFirst_of_leads (h : piece <+: cs) :
    FollowsFirst piece cs rest ↔ cs = piece ++ rest := by
  obtain ⟨rest', hrest'⟩ := h
  constructor
  · rintro ⟨before, hcs, hfirst⟩
    have hbefore : before.length ≤ 0 := hfirst [] rest' hrest'.symm
    obtain rfl := List.length_eq_zero_iff.1 (Nat.le_zero.1 hbefore)
    exact hcs
  · intro hcs
    exact ⟨[], hcs, fun _ _ _ => Nat.zero_le _⟩

theorem followsFirst_cons (h : ¬ piece <+: c :: cs) :
    FollowsFirst piece (c :: cs) rest ↔ FollowsFirst piece cs rest := by
  -- No occurrence stands at the very beginning, so each has the first character before it.
  have hlater {before rest : List Char} (hcs : c :: cs = before ++ (piece ++ rest)) :
      ∃ before', before = c :: before' ∧ cs = before' ++ (piece ++ rest) := by
    cases before with
    | nil => exact absurd ⟨rest, hcs.symm⟩ h
    | cons d before' =>
      rw [List.cons_append, List.cons.injEq] at hcs
      exact ⟨before', by rw [hcs.1], hcs.2⟩
  constructor
  · rintro ⟨before, hcs, hfirst⟩
    obtain ⟨before', rfl, hcs'⟩ := hlater hcs
    refine ⟨before', hcs', fun before'' rest'' h' => ?_⟩
    have hle := hfirst (c :: before'') rest'' (by rw [h', List.cons_append])
    simpa using hle
  · rintro ⟨before, hcs, hfirst⟩
    refine ⟨c :: before, by rw [hcs, List.cons_append], fun before'' rest'' h' => ?_⟩
    obtain ⟨before', rfl, hcs'⟩ := hlater h'
    simpa using hfirst before' rest'' hcs'

theorem after?_eq_some_iff : after? piece cs = some rest ↔ FollowsFirst piece cs rest := by
  induction cs with
  | nil =>
    by_cases hp : piece = []
    · rw [followsFirst_of_leads (by simp [hp])]
      simp [after?, hp, eq_comm]
    · have hnone : ¬ FollowsFirst piece [] rest := by
        rintro ⟨before, hcs, -⟩
        simp [hp] at hcs
      simp [after?, hp, hnone]
  | cons c cs ih =>
    rw [after?]
    split
    · next hleads =>
      rw [List.isPrefixOf_iff_prefix] at hleads
      rw [followsFirst_of_leads hleads]
      obtain ⟨rest', hrest'⟩ := hleads
      rw [← hrest', List.drop_left, Option.some.injEq, List.append_cancel_left_eq]
    · next hleads =>
      rw [List.isPrefixOf_iff_prefix] at hleads
      rw [followsFirst_cons hleads, ih]

theorem after?_eq_none_iff : after? piece cs = none ↔ ¬ piece <:+: cs := by
  induction cs with
  | nil => simp [after?]
  | cons c cs ih =>
    rw [after?, List.infix_cons_iff, not_or]
    split
    · next hleads => simp [List.isPrefixOf_iff_prefix.1 hleads]
    · next hleads =>
      rw [List.isPrefixOf_iff_prefix] at hleads
      rw [ih, and_iff_right hleads]

/-- An occurrence is found if there is none before it, not even one that overlaps it. -/
theorem after?_append_iff (front tail : List Char) (hpiece : piece ≠ []) :
    after? piece (front ++ (piece ++ tail)) = some tail ↔ ¬ piece <:+: front ++ piece.dropLast := by
  have hpos : 0 < piece.length := List.length_pos_iff.2 hpiece
  rw [after?_eq_some_iff]
  constructor
  · rintro ⟨before, hcs, hfirst⟩ ⟨u, v, huv⟩
    have hlength := congrArg List.length hcs
    have hearlier := congrArg List.length huv
    have hoccurs : front ++ (piece ++ tail) =
        u ++ (piece ++ (v ++ (piece.getLast hpiece :: tail))) := calc
      _ = (front ++ piece.dropLast) ++ (piece.getLast hpiece :: tail) := by
        conv_lhs => rw [← List.dropLast_append_getLast hpiece]
        simp
      _ = _ := by rw [← huv]; simp
    have hle := hfirst u _ hoccurs
    simp only [List.length_append, List.length_dropLast] at hlength hearlier
    omega
  · intro hnone
    refine ⟨front, rfl, fun before rest h => ?_⟩
    by_contra hlt
    refine hnone (List.IsInfix.trans (List.suffix_append before piece).isInfix ?_)
    -- Both are read from the beginning of the whole text.
    have hshort : before ++ piece <+: front ++ (piece ++ tail) :=
      ⟨rest, by rw [h, List.append_assoc]⟩
    have hlong : front ++ piece.dropLast <+: front ++ (piece ++ tail) :=
      (List.prefix_append_right_inj front).2
        ((List.dropLast_prefix piece).trans (List.prefix_append piece tail))
    refine (List.prefix_of_prefix_length_le hshort hlong ?_).isInfix
    simp only [List.length_append, List.length_dropLast]
    omega

/-! ## Occurrences between characters -/

variable {a b : List Char}

theorem prefix_separated_iff (hc : c ∉ piece) : piece <+: a ++ c :: b ↔ piece <+: a := by
  refine ⟨fun h => ?_, fun h => h.trans (List.prefix_append a _)⟩
  obtain hlt | hle := Nat.lt_or_ge a.length piece.length
  · -- A piece that is longer than what stands before the character has it.
    have hshort : a ++ [c] <+: piece :=
      List.prefix_of_prefix_length_le ⟨b, by simp⟩ h (by simpa using Nat.succ_le_of_lt hlt)
    exact absurd (hshort.subset (by simp)) hc
  · exact List.prefix_of_prefix_length_le h (List.prefix_append a _) hle

/-- An occurrence does not reach across a character that the piece does not have. -/
theorem infix_separated_iff (hc : c ∉ piece) :
    piece <:+: a ++ c :: b ↔ piece <:+: a ∨ piece <:+: b := by
  induction a with
  | nil =>
    have hfirst : piece <+: c :: b ↔ piece <+: [] := prefix_separated_iff (a := []) hc
    rw [List.nil_append, List.infix_cons_iff, hfirst, List.prefix_nil, List.infix_nil]
  | cons d a ih =>
    have hfirst : piece <+: d :: (a ++ c :: b) ↔ piece <+: d :: a :=
      prefix_separated_iff (a := d :: a) hc
    have hcons : piece <:+: d :: a ↔ piece <+: d :: a ∨ piece <:+: a := List.infix_cons_iff
    rw [List.cons_append, List.infix_cons_iff, hfirst, ih, hcons, or_assoc]

/-- An occurrence does not reach into a text of characters that the piece does not have. -/
theorem infix_fenced_iff {fence : List Char} (hne : fence ≠ [])
    (hfence : ∀ c ∈ fence, c ∉ piece) :
    piece <:+: a ++ (fence ++ b) ↔ piece <:+: a ∨ piece <:+: b := by
  induction fence generalizing a with
  | nil => exact absurd rfl hne
  | cons c fence ih =>
    rw [List.forall_mem_cons] at hfence
    rw [List.cons_append, infix_separated_iff hfence.1]
    cases fence with
    | nil => rfl
    | cons d fence =>
      have hrest := ih (a := []) (by simp) hfence.2
      have hnil : piece <:+: [] → piece <:+: b := fun h => List.infix_nil.1 h ▸ List.nil_infix
      rw [List.nil_append, or_iff_right_of_imp hnil] at hrest
      rw [hrest]

/-! ## Doubled quotes -/

theorem prefix_doubleQuotes_iff (h : '"' ∉ piece) : piece <+: doubleQuotes cs ↔ piece <+: cs := by
  induction cs generalizing piece with
  | nil => rfl
  | cons c cs ih =>
    cases piece with
    | nil => simp
    | cons p piece =>
      rw [List.mem_cons, not_or] at h
      rw [doubleQuotes]
      split
      · next hc => simp [hc, Ne.symm h.1]
      · rw [List.cons_prefix_cons, List.cons_prefix_cons, ih h.2]

theorem infix_doubleQuotes_iff (h : '"' ∉ piece) :
    piece <:+: doubleQuotes cs ↔ piece <:+: cs := by
  induction cs with
  | nil => rfl
  | cons c cs ih =>
    rw [doubleQuotes]
    split
    · next hc =>
      have hquote (ds : List Char) : piece <:+: '"' :: ds ↔ piece <:+: [] ∨ piece <:+: ds :=
        infix_separated_iff (a := []) h
      rw [hc, hquote, hquote, hquote, ih, or_self_left]
    · next hc =>
      have hcons : c :: doubleQuotes cs = doubleQuotes (c :: cs) := by rw [doubleQuotes, if_neg hc]
      rw [List.infix_cons_iff, List.infix_cons_iff, ih, hcons, prefix_doubleQuotes_iff h]

end Text

end CatalogShell
