import CatalogShell.Proofs.Pattern.Glyphs

/-!
# The glob reading of patterns

What a pattern accepts, said without regular expressions and without the compiler. `Glob.splitDot`
cuts a pattern at its first dot outside quotes, `Glob.pieces` reads a part as pieces, and
`Glob.Spells` tells which strings these spell.

The compiler goes through the same text glyph by glyph: `pieces_eq` and `splitAtDot_glyphs` show
that both cut it up in the same way.
-/

namespace CatalogShell.Glob

/-- What spells a stretch of a name. -/
inductive Piece where
  /-- This character. -/
  | this (c : Char)
  /-- Any one character but a newline. -/
  | anyOne
  /-- Any run of characters, none of them a newline. -/
  | anyRun
deriving DecidableEq, Repr

/-- Reads a part of a pattern from inside (`true`) or outside quotes. -/
def pieces : Bool → List Char → List Piece
  | _, [] => []
  | true, '"' :: '"' :: cs => .this '"' :: pieces true cs
  | true, '"' :: cs => pieces false cs
  | true, c :: cs => .this c :: pieces true cs
  | false, '"' :: cs => pieces true cs
  | false, '*' :: cs => .anyRun :: pieces false cs
  | false, '?' :: cs => .anyOne :: pieces false cs
  | false, c :: cs => .this c.toLower :: pieces false cs

/-- The pieces spell the whole of a string. -/
inductive Spells : List Piece → List Char → Prop
  | nil : Spells [] []
  | this {c ps cs} : Spells ps cs → Spells (.this c :: ps) (c :: cs)
  | anyOne {c ps cs} : c ≠ '\n' → Spells ps cs → Spells (.anyOne :: ps) (c :: cs)
  | anyRun {run ps cs} : '\n' ∉ run → Spells ps cs → Spells (.anyRun :: ps) (run ++ cs)

/-- The text before the first dot outside quotes, and the text after it if there is one. -/
def splitDot : Bool → List Char → List Char × Option (List Char)
  | _, [] => ([], none)
  | inside, c :: cs =>
    if c = '.' ∧ inside = false then ([], some cs)
    else
      let parts := splitDot (if c = '"' then !inside else inside) cs
      (c :: parts.1, parts.2)

/-- The characters outside quotes. -/
def unquoted : Bool → List Char → List Char
  | _, [] => []
  | inside, c :: cs =>
    if c = '"' then unquoted (!inside) cs
    else if inside then unquoted inside cs
    else c :: unquoted inside cs

/-- The characters that, outside quotes, keep their meaning in regular expressions. -/
def isReserved (c : Char) : Bool :=
  ['|', '+', '(', ')', '[', ']', '{', '}', '^', '\\'].contains c

/-- A part without pieces accepts any string, any other the strings that its pieces spell. -/
def PartAccepts (part : List Char) (s : String) : Prop :=
  pieces false part = [] ∨ Spells (pieces false part) s.toList

/-- What a pattern accepts. -/
def Accepts (text schema name : String) : Prop :=
  match splitDot false text.toList with
  | (namePart, none) => PartAccepts namePart name
  | (schemaPart, some namePart) => PartAccepts schemaPart schema ∧ PartAccepts namePart name

/-- The piece of a glyph. -/
def pieceOf : Glyph → Piece
  | .quoted c => .this c
  | .bare c => if c = '*' then .anyRun else if c = '?' then .anyOne else .this c.toLower

/-! ## Glyphs and pieces -/

theorem pieces_eq (inside : Bool) (cs : List Char) :
    pieces inside cs = (glyphs inside cs).1.map pieceOf := by
  induction inside, cs using pieces.induct with
  | case1 inside => simp [pieces, glyphs]
  | case2 cs ih => rw [pieces, glyphs_doubled, ih]; rfl
  | case3 cs hnext ih =>
    rw [pieces, glyphs_quote (fun rest _ => hnext rest), ih]
    · rfl
    · exact hnext
  | case4 c cs hdoubled hquote ih =>
    rw [pieces, glyphs_char true cs hquote, ih]
    · rfl
    · exact hdoubled
    · exact hquote
  | case5 cs ih =>
    rw [pieces, glyphs_quote (fun _ h => absurd h (by simp)), ih]
    rfl
  | case6 cs ih => rw [pieces, glyphs_char false cs (by decide), ih]; rfl
  | case7 cs ih => rw [pieces, glyphs_char false cs (by decide), ih]; rfl
  | case8 c cs hquote hstar hone ih =>
    rw [pieces, glyphs_char false cs hquote, ih]
    · simp only [Bool.false_eq_true, ↓reduceIte, List.map_cons, pieceOf, if_neg hstar, if_neg hone]
    · exact hquote
    · exact hstar
    · exact hone

theorem splitDot_fst_isPrefix (inside : Bool) (cs : List Char) : (splitDot inside cs).1 <+: cs := by
  induction cs generalizing inside with
  | nil => exact List.prefix_rfl
  | cons c cs ih =>
    rw [splitDot]
    split
    · exact List.nil_prefix
    · exact (List.prefix_cons_inj c).2 (ih _)

/-- The compiler splits the glyphs of a pattern at the dot at which its text is split. -/
theorem splitAtDot_glyphs (inside : Bool) (cs : List Char) :
    splitAtDot (glyphs inside cs).1 =
      ((glyphs inside (splitDot inside cs).1).1,
        (splitDot inside cs).2.map fun rest => (glyphs false rest).1) := by
  induction inside, cs using glyphs.induct with
  | case1 inside => simp [glyphs, splitDot, splitAtDot]
  | case2 cs _ _ _ ih =>
    have hsplit : splitDot true ('"' :: '"' :: cs) =
        ('"' :: '"' :: (splitDot true cs).1, (splitDot true cs).2) := rfl
    rw [glyphs_doubled, hsplit, glyphs_doubled, splitAtDot, if_neg (by simp), ih]
  | case3 inside cs hdoubled ih =>
    have hsplit : splitDot inside ('"' :: cs) =
        ('"' :: (splitDot (!inside) cs).1, (splitDot (!inside) cs).2) := rfl
    have hbefore (rest : List Char) (hin : inside = true) :
        (splitDot (!inside) cs).1 ≠ '"' :: rest := by
      intro h
      obtain ⟨tail, htail⟩ := h ▸ splitDot_fst_isPrefix (!inside) cs
      exact hdoubled _ hin rfl htail.symm
    rw [glyphs_quote fun rest hin => hdoubled rest hin rfl, hsplit, glyphs_quote hbefore, ih]
  | case4 inside c cs hdoubled hc _ _ _ ih =>
    rw [glyphs_char inside cs hc, splitDot, if_neg hc]
    by_cases hdot : c = '.' ∧ inside = false
    · obtain ⟨rfl, rfl⟩ := hdot
      simp [splitAtDot, glyphs]
    · have hglyph : (if inside then Glyph.quoted c else .bare c) ≠ .bare '.' := by
        cases inside <;> simp_all
      rw [if_neg hdot, splitAtDot, if_neg hglyph, glyphs_char inside _ hc, ih]

/-- Bare glyphs come from characters outside quotes. -/
theorem mem_unquoted_of_bare {inside : Bool} {cs : List Char} {c : Char}
    (h : .bare c ∈ (glyphs inside cs).1) : c ∈ unquoted inside cs := by
  induction inside, cs using glyphs.induct with
  | case1 inside => simp [glyphs] at h
  | case2 cs _ _ _ ih =>
    rw [glyphs_doubled] at h
    exact ih (by simpa using h)
  | case3 inside cs hdoubled ih =>
    rw [glyphs_quote fun rest hin => hdoubled rest hin rfl] at h
    exact ih h
  | case4 inside d cs hdoubled hd _ _ _ ih =>
    rw [glyphs_char inside cs hd] at h
    rw [unquoted, if_neg hd]
    cases inside with
    | true => exact ih (by simpa using h)
    | false =>
      obtain h | h := List.mem_cons.1 h
      · exact List.mem_cons.2 (.inl (Glyph.bare.inj h))
      · exact List.mem_cons_of_mem _ (ih h)

theorem mem_of_mem_splitAtDot {gs : List Glyph} {g : Glyph}
    (h : g ∈ (splitAtDot gs).1 ∨ ∃ after, (splitAtDot gs).2 = some after ∧ g ∈ after) : g ∈ gs := by
  induction gs with
  | nil => simp [splitAtDot] at h
  | cons g' gs ih =>
    rw [splitAtDot] at h
    split at h
    · simp only [List.not_mem_nil, Option.some.injEq, exists_eq_left', false_or] at h
      exact List.mem_cons_of_mem _ h
    · simp only [List.mem_cons, or_assoc] at h
      exact h.elim (fun h => h ▸ List.mem_cons_self) fun h => List.mem_cons_of_mem _ (ih h)

end CatalogShell.Glob
