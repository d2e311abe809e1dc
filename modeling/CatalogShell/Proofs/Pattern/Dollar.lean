import CatalogShell.Proofs.Pattern.Matcher
import CatalogShell.Proofs.Regex.Enclosed

/-!
# Dollar signs of a pattern

A dollar sign of a pattern is compiled to an escaped one, in or outside quotes. But a backslash
outside quotes is passed on as it is: if it stands right before the dollar sign, then it takes the
backslash that was put there for its own, and the dollar sign is an anchor.

* `Regex.AnchorsBefore`: reading takes a dollar sign for an anchor. It does not if the dollar sign
  is escaped (`Regex.AnchorsBefore.even`).
* `exists_glyph_of_dollar`: every dollar sign of a body comes from one of the pattern.
* `even_backslashesAtEnd_bodyOf`: what stands before it there decides whether it is escaped.
* `Pattern.dollars_escaped`: a dollar sign is escaped exactly if the number of bare backslashes right
  before it is even, and then it is no anchor.
-/

namespace CatalogShell

/-! ## Anchors -/

namespace Regex

variable [Properties]

/-- Reading comes to the dollar sign that stands before `after`, and takes it for the condition that
the text ends. -/
inductive AnchorsBefore (after : List Char) : Level → List Level → List Char → Prop where
  | here (level : Level) (outer : List Level) : AnchorsBefore after level outer ('$' :: after)
  | later {level level' : Level} {outer outer' : List Level} {cs rest : List Char}
      (step : readStep level outer cs = some (level', outer', rest))
      (next : AnchorsBefore after level' outer' rest) : AnchorsBefore after level outer cs

variable {level : Level} {outer : List Level} {before after cs : List Char}

/-- No step takes a part of an escape. -/
theorem AnchorsBefore.takesWhole (h : AnchorsBefore after level outer cs) :
    TakesWhole cs ('$' :: after) := by
  induction h with
  | here level outer => exact .refl _
  | later step _ ih => exact (readStep_takes step).2.trans ih

/-- An anchor is not escaped. -/
theorem AnchorsBefore.even (h : AnchorsBefore after level outer (before ++ '$' :: after)) :
    Even (backslashesAtEnd before) := by
  obtain ⟨taken, heq, heven⟩ := h.takesWhole
  rwa [List.append_cancel_right heq]

end Regex

/-! ## Glyphs -/

namespace Glyph

/-- The character, in or outside quotes. -/
def char : Glyph → Char
  | .quoted c => c
  | .bare c => c

theorem body_of_dollar {g : Glyph} (h : g.char = '$') : g.body = ['\\', '$'] := by
  cases g <;> obtain rfl : _ = '$' := h <;> rfl

/-- Other glyphs are not compiled to a dollar sign. -/
theorem dollar_notMem_body {g : Glyph} (h : g.char ≠ '$') : '$' ∉ g.body := by
  cases g with
  | quoted c =>
    have hc : '$' ≠ c := Ne.symm h
    rw [body]
    split <;> simp [hc]
  | bare c =>
    have hc : c ≠ '$' := h
    by_cases hupper : c.isUpper = true
    · have hletter := notMem_syntaxChars (toNat_toLower_of_isUpper hupper)
      rw [body, if_pos hupper, List.mem_singleton]
      rintro hdollar
      exact hletter (hdollar ▸ by decide)
    · simp only [body, if_neg hupper, if_neg hc]
      split_ifs <;> simp [Ne.symm hc]

/-- Only the body of a backslash ends with one. -/
theorem exists_body_eq_concat {g : Glyph} (h : g.char ≠ '\\') :
    ∃ front last, g.body = front ++ [last] ∧ last ≠ '\\' := by
  cases g with
  | quoted c =>
    have hc : c ≠ '\\' := h
    rw [body]
    split
    · exact ⟨['\\'], c, rfl, hc⟩
    · exact ⟨[], c, rfl, hc⟩
  | bare c =>
    have hc : c ≠ '\\' := h
    by_cases hupper : c.isUpper = true
    · have hletter := notMem_syntaxChars (toNat_toLower_of_isUpper hupper)
      rw [body, if_pos hupper]
      refine ⟨[], c.toLower, rfl, fun hbackslash => hletter (hbackslash ▸ by decide)⟩
    · rw [body, if_neg hupper]
      split_ifs
      · exact ⟨['.'], '*', rfl, by decide⟩
      · exact ⟨[], '.', rfl, by decide⟩
      · exact ⟨['\\'], '.', rfl, by decide⟩
      · exact ⟨['\\'], '$', rfl, by decide⟩
      · exact ⟨[], c, rfl, hc⟩

end Glyph

/-- How many bare backslashes there are among the backslashes that the glyphs end with. -/
def bareBackslashes (gs : List Glyph) : Nat :=
  (gs.rtakeWhile (·.char = '\\')).count (.bare '\\')

theorem bareBackslashes_concat (gs : List Glyph) (g : Glyph) : bareBackslashes (gs ++ [g]) =
    if g.char = '\\' then bareBackslashes gs + (if g = .bare '\\' then 1 else 0) else 0 := by
  by_cases hg : g.char = '\\'
  · simp [bareBackslashes, hg, List.count_singleton]
  · simp [bareBackslashes, hg]

theorem bodyOf_cons (g : Glyph) (gs : List Glyph) : bodyOf (g :: gs) = g.body ++ bodyOf gs :=
  List.flatMap_cons

theorem bodyOf_concat (gs : List Glyph) (g : Glyph) : bodyOf (gs ++ [g]) = bodyOf gs ++ g.body := by
  simp [bodyOf]

/-- A quoted backslash is compiled to two, and a bare one to itself. -/
theorem even_backslashesAtEnd_bodyOf (gs : List Glyph) :
    Even (Regex.backslashesAtEnd (bodyOf gs)) ↔ Even (bareBackslashes gs) := by
  induction gs using List.reverseRecOn with
  | nil => exact iff_of_true Even.zero Even.zero
  | append_singleton gs g ih =>
    rw [bodyOf_concat, bareBackslashes_concat]
    by_cases hg : g.char = '\\'
    · rw [if_pos hg]
      cases g with
      | quoted c =>
        obtain rfl : c = '\\' := hg
        change Even (Regex.backslashesAtEnd (bodyOf gs ++ (['\\'] ++ ['\\']))) ↔ _
        rw [← List.append_assoc, Regex.backslashesAtEnd_concat, Regex.backslashesAtEnd_concat]
        simp [Nat.even_add_one, ih]
      | bare c =>
        obtain rfl : c = '\\' := hg
        change Even (Regex.backslashesAtEnd (bodyOf gs ++ ['\\'])) ↔ _
        rw [Regex.backslashesAtEnd_concat]
        simp [Nat.even_add_one, ih]
    · obtain ⟨front, last, hbody, hlast⟩ := Glyph.exists_body_eq_concat hg
      rw [if_neg hg, hbody, ← List.append_assoc, Regex.backslashesAtEnd_concat, if_neg hlast]

/-- A character that is not in a text is found behind it. -/
theorem append_eq_append_cons {c : Char} {cs ds before after : List Char} (hc : c ∉ cs)
    (h : cs ++ ds = before ++ c :: after) :
    ∃ front, before = cs ++ front ∧ ds = front ++ c :: after := by
  obtain ⟨front, rfl, hds⟩ | ⟨front, rfl, hds⟩ := List.append_eq_append_iff.1 h
  · exact ⟨front, rfl, hds⟩
  · cases front with
    | nil => exact ⟨[], by simp, hds.symm⟩
    | cons d front =>
      obtain ⟨rfl, -⟩ := List.cons.inj hds
      exact absurd (by simp) hc

/-- Every dollar sign of a body comes from a dollar sign of the pattern, with a backslash that was
put before it. -/
theorem exists_glyph_of_dollar {gs : List Glyph} {before after : List Char}
    (h : bodyOf gs = before ++ '$' :: after) : ∃ left g right, gs = left ++ g :: right ∧
      g.char = '$' ∧ before = bodyOf left ++ ['\\'] ∧ after = bodyOf right := by
  induction gs generalizing before with
  | nil => simp [bodyOf] at h
  | cons g gs ih =>
    have hlater {front : List Char} (hbefore : before = g.body ++ front)
        (hgs : bodyOf gs = front ++ '$' :: after) : ∃ left g' right, g :: gs = left ++ g' :: right ∧
          g'.char = '$' ∧ before = bodyOf left ++ ['\\'] ∧ after = bodyOf right := by
      obtain ⟨left, g', right, rfl, hg', rfl, hafter⟩ := ih hgs
      exact ⟨g :: left, g', right, rfl, hg',
        by rw [hbefore, bodyOf_cons, List.append_assoc], hafter⟩
    rw [bodyOf_cons] at h
    by_cases hg : g.char = '$'
    · rw [Glyph.body_of_dollar hg] at h hlater
      have hbackslash : '$' ∉ ['\\'] := by decide
      obtain ⟨front, rfl, hfront⟩ := append_eq_append_cons hbackslash h
      cases front with
      | nil =>
        obtain ⟨-, hafter⟩ := List.cons.inj hfront
        exact ⟨[], g, gs, rfl, hg, rfl, hafter.symm⟩
      | cons d front =>
        obtain ⟨rfl, hgs⟩ := List.cons.inj hfront
        exact hlater rfl hgs
    · obtain ⟨front, hbefore, hgs⟩ := append_eq_append_cons (Glyph.dollar_notMem_body hg) h
      exact hlater hbefore hgs

/-! ## All of them -/

theorem count_dollar_bodyOf (gs : List Glyph) :
    (bodyOf gs).count '$' = gs.countP (·.char = '$') := by
  induction gs with
  | nil => rfl
  | cons g gs ih =>
    rw [bodyOf_cons, List.count_append, ih, List.countP_cons, Nat.add_comm]
    by_cases hg : g.char = '$'
    · simp [hg, Glyph.body_of_dollar hg]
    · simp [hg, List.count_eq_zero_of_not_mem (Glyph.dollar_notMem_body hg)]

theorem countP_dollar_glyphs (inside : Bool) (cs : List Char) :
    (glyphs inside cs).1.countP (·.char = '$') = cs.count '$' := by
  induction inside, cs using glyphs.induct with
  | case1 inside => simp [glyphs]
  | case2 cs _ _ _ ih => simpa [glyphs_doubled, Glyph.char] using ih
  | case3 inside cs hdoubled ih =>
    rw [glyphs_quote fun rest hin => hdoubled rest hin rfl, ih, List.count_cons_of_ne (by decide)]
  | case4 inside c cs hdoubled hc _ _ _ ih =>
    rw [glyphs_char inside cs hc, List.countP_cons, ih, List.count_cons]
    cases inside <;> simp [Glyph.char]

theorem countP_dollar_splitAtDot (gs : List Glyph) :
    (splitAtDot gs).1.countP (·.char = '$') +
      ((splitAtDot gs).2.getD []).countP (·.char = '$') = gs.countP (·.char = '$') := by
  induction gs with
  | nil => rfl
  | cons g gs ih =>
    rw [splitAtDot]
    split
    · next hg => simp [hg, Glyph.char]
    · rw [List.countP_cons, List.countP_cons, ← ih]
      dsimp only
      omega

namespace Pattern

/-- The glyphs of a part of a pattern, and the body that they are compiled to. -/
inductive HasPart (text : String) : List Glyph → List Char → Prop where
  | whole {name : List Glyph} (h : splitAtDot (glyphs false text.toList).1 = (name, none)) :
      HasPart text name (compile text).nameBody
  | schema {schema name : List Glyph}
      (h : splitAtDot (glyphs false text.toList).1 = (schema, some name)) :
      HasPart text schema (compile text).schemaBody
  | name {schema name : List Glyph}
      (h : splitAtDot (glyphs false text.toList).1 = (schema, some name)) :
      HasPart text name (compile text).nameBody

theorem HasPart.body_eq {text : String} {gs : List Glyph} {body : List Char}
    (h : HasPart text gs body) : body = bodyOf gs := by
  cases h with
  | whole h => rw [compile_of_unsplit h]
  | schema h => rw [compile_of_split h]
  | name h => rw [compile_of_split h]

theorem HasPart.mem_unquoted {text : String} {gs : List Glyph} {body : List Char}
    (h : HasPart text gs body) {c : Char} (hc : .bare c ∈ gs) :
    c ∈ Glob.unquoted false text.toList := by
  refine Glob.mem_unquoted_of_bare (Glob.mem_of_mem_splitAtDot ?_)
  cases h with
  | whole h => rw [h]; exact .inl hc
  | schema h => rw [h]; exact .inl hc
  | name h => rw [h]; exact .inr ⟨_, rfl, hc⟩

theorem count_dollar_compile (text : String) :
    (compile text).schemaBody.count '$' + (compile text).nameBody.count '$' =
      text.toList.count '$' := by
  rw [← countP_dollar_glyphs false text.toList, ← countP_dollar_splitAtDot]
  rcases hsplit : splitAtDot (glyphs false text.toList).1 with ⟨before, _ | after⟩
  · simp [compile_of_unsplit hsplit, count_dollar_bodyOf]
  · simp [compile_of_split hsplit, count_dollar_bodyOf]

/-- No dollar sign of a pattern is lost, and each one in a body comes from one of the pattern, with
a backslash that was put before it. Of the backslashes right before it in the pattern only those
outside quotes matter: if their number is even, then the dollar sign is escaped, and no anchor in
the filter; else it is not escaped. Without a backslash outside quotes all of them are. -/
theorem dollars_escaped [Regex.Properties] (text : String) :
    (compile text).schemaBody.count '$' + (compile text).nameBody.count '$' =
      text.toList.count '$' ∧
    ∀ gs body, HasPart text gs body → ∀ before after, body = before ++ '$' :: after →
      filterOf body = some (String.ofList (Regex.enclosed body)) ∧
      ∃ left g right, gs = left ++ g :: right ∧ g.char = '$' ∧
        before = bodyOf left ++ ['\\'] ∧ after = bodyOf right ∧
        (Odd (Regex.backslashesAtEnd before) ↔ Even (bareBackslashes left)) ∧
        (Regex.AnchorsBefore (after ++ Regex.groupEnd) {} [] (Regex.enclosed body) →
          Odd (bareBackslashes left)) ∧
        ('\\' ∉ Glob.unquoted false text.toList → Even (bareBackslashes left)) := by
  refine ⟨count_dollar_compile text, fun gs body hpart before after hbody => ⟨?_, ?_⟩⟩
  · have hne : body.isEmpty = false := by simp [hbody]
    rw [filterOf, hne]
    rfl
  · obtain ⟨left, g, right, hgs, hg, hbefore, hafter⟩ :=
      exists_glyph_of_dollar (hpart.body_eq.symm.trans hbody)
    have hparity : Odd (Regex.backslashesAtEnd before) ↔ Even (bareBackslashes left) := by
      rw [hbefore, Regex.backslashesAtEnd_concat, if_pos rfl, Nat.odd_add_one,
        Nat.not_odd_iff_even, even_backslashesAtEnd_bodyOf]
    refine ⟨left, g, right, hgs, hg, hbefore, hafter, hparity, fun hanchor => ?_, fun hbare => ?_⟩
    · have henclosed : Regex.enclosed body =
          (['^', '('] ++ before) ++ '$' :: (after ++ Regex.groupEnd) := by
        simp [Regex.enclosed, hbody]
      rw [henclosed] at hanchor
      have heven := (Regex.even_backslashesAtEnd_append (by decide) _).1 hanchor.even
      rw [← Nat.not_even_iff_odd, ← hparity, Nat.not_odd_iff_even]
      exact heven
    · have hnone : bareBackslashes left = 0 := by
        refine List.count_eq_zero_of_not_mem fun hmem => hbare ?_
        have hleft := (List.rtakeWhile_suffix _ _).subset hmem
        exact hpart.mem_unquoted (hgs ▸ List.mem_append_left _ hleft)
      rw [hnone]
      exact Even.zero

/-- A backslash outside quotes takes the one that was put before the dollar sign, so that a name is
accepted that has no dollar sign, and the name that has both characters is not. -/
theorem dollar_after_backslash_anchors :
    (compile "\\$").nameFilter? = some "^(\\\\$)$" ∧
      (compile "\\$").nameBody = ['\\', '\\'] ++ '$' :: [] ∧
      ¬ Odd (Regex.backslashesAtEnd ['\\', '\\']) ∧
      Regex.AnchorsBefore ([] ++ Regex.groupEnd) {} [] (Regex.enclosed (compile "\\$").nameBody) ∧
      ∃ m, (compile "\\$").matcher = .ok m ∧ m.accepts "public" "\\" = true ∧
        m.accepts "public" "\\$" = false :=
  ⟨rfl, rfl, by decide, .later rfl (.later rfl (.later rfl (.here _ _))), _, rfl, rfl, rfl⟩

end Pattern

end CatalogShell
