import CatalogShell.Pattern.Matcher
import CatalogShell.Proofs.Pattern.Glob
import CatalogShell.Proofs.Regex.Sequence

/-!
# Matching accepts what the glob reading accepts

The body of each glyph is read as one item of a regular expression (`readsAs_body`), and the row
of these items matches what the pieces spell (`through_iff_spells`). So the filters of a pattern,
once they are read, accept the names that the pattern accepts as a glob
(`Pattern.matcher_accepts_iff`), as long as it has no reserved characters outside quotes.
-/

namespace CatalogShell

open Regex (Item ReadsAs)

/-! ## The item of a piece -/

namespace Glob

/-- What a piece is in a regular expression. -/
def Piece.item : Piece → Item
  | .this c => ⟨.one (.single c), 0⟩
  | .anyOne => ⟨.one Regex.anyChar, 0⟩
  | .anyRun => ⟨.times (.one Regex.anyChar) 0 none, 1⟩

theorem Piece.item_small (p : Piece) :
    p.item.height ≤ 1 ∧ Regex.unrolled p.item.regex = 0 := by
  cases p <;> exact ⟨by simp [item], rfl⟩

/-- A glyph whose character keeps no meaning in regular expressions. -/
def IsPlain (g : Glyph) : Prop := ∀ c, g = .bare c → isReserved c = false

end Glob

open Glob (pieceOf Piece)

theorem toNat_toLower_of_isUpper {c : Char} (h : c.isUpper = true) :
    97 ≤ c.toLower.toNat ∧ c.toLower.toNat ≤ 122 := by
  have hbounds : c.val ≥ 'A'.val ∧ c.val ≤ 'Z'.val := of_decide_eq_true h
  have hlow : 65 ≤ c.val.toNat := hbounds.1
  have hhigh : c.val.toNat ≤ 90 := hbounds.2
  have hgap : ('a'.val - 'A'.val).toNat = 32 := rfl
  have hlower : c.toLower.toNat = (c.val + ('a'.val - 'A'.val)).toNat :=
    congrArg Char.toNat (dif_pos hbounds)
  rw [hlower, UInt32.toNat_add, hgap]
  omega

theorem toLower_of_not_isUpper {c : Char} (h : ¬ c.isUpper = true) : c.toLower = c :=
  dif_neg fun hbounds => h (decide_eq_true hbounds)

/-- A letter has no meaning of its own. -/
theorem notMem_syntaxChars {c : Char} (h : 97 ≤ c.toNat ∧ c.toNat ≤ 122) :
    c ∉ Regex.syntaxChars := by
  have hall : ∀ d ∈ Regex.syntaxChars, d.toNat < 97 ∨ 122 < d.toNat := by
    simp [Regex.syntaxChars]
  intro hc
  have := hall c hc
  omega

section

variable [Regex.Properties]

theorem readsAs_quoted (c : Char) :
    ReadsAs (Glyph.quoted c).body (pieceOf (.quoted c)).item := by
  rw [Glyph.body]
  split
  · next h =>
    have hc : c ∈ ['$', '|', '*', '+', '?', '(', ')', '[', ']', '{', '}', '.', '^', '\\'] := by
      simpa [isMeta] using h
    have hall : ∀ d ∈ ['$', '|', '*', '+', '?', '(', ')', '[', ']', '{', '}', '.', '^', '\\'],
        d.toNat < 128 ∧ d.isAlphanum = false ∧ d ∉ ['<', '>'] := by simp
    exact Regex.readsAs_escape (hall c hc).1 (hall c hc).2.1 (hall c hc).2.2
  · next h =>
    refine Regex.readsAs_char fun hc => h ?_
    have hall : ∀ d ∈ Regex.syntaxChars, d = '$' ∨ isMeta d = true := by
      simp [Regex.syntaxChars, isMeta]
    exact hall c hc

theorem readsAs_bare {c : Char} (h : Glob.isReserved c = false) :
    ReadsAs (Glyph.bare c).body (pieceOf (.bare c)).item := by
  by_cases hstar : c = '*'
  · subst hstar
    exact Regex.readsAs_dotStar
  by_cases hone : c = '?'
  · subst hone
    exact Regex.readsAs_dot
  by_cases hdot : c = '.'
  · subst hdot
    exact Regex.readsAs_escape (by decide) (by decide) (by decide)
  by_cases hdollar : c = '$'
  · subst hdollar
    exact Regex.readsAs_escape (by decide) (by decide) (by decide)
  have hpiece : pieceOf (.bare c) = .this c.toLower := by rw [pieceOf, if_neg hstar, if_neg hone]
  rw [hpiece, Glyph.body]
  by_cases hupper : c.isUpper = true
  · rw [if_pos hupper]
    exact Regex.readsAs_char (notMem_syntaxChars (toNat_toLower_of_isUpper hupper))
  · rw [if_neg hupper, if_neg hstar, if_neg hone, if_neg hdot, if_neg hdollar,
      toLower_of_not_isUpper hupper]
    refine Regex.readsAs_char fun hc => ?_
    have hall : ∀ d ∈ Regex.syntaxChars,
        d = '*' ∨ d = '?' ∨ d = '.' ∨ d = '$' ∨ Glob.isReserved d = true := by
      simp [Regex.syntaxChars, Glob.isReserved]
    have := hall c hc
    simp [hstar, hone, hdot, hdollar, h] at this

/-- The body of a glyph is read as its piece. -/
theorem readsAs_body {g : Glyph} (h : Glob.IsPlain g) : ReadsAs g.body (pieceOf g).item := by
  cases g with
  | quoted c => exact readsAs_quoted c
  | bare c => exact readsAs_bare (h c rfl)

end

/-! ## What pieces spell -/

namespace Glob

variable {ps : List Piece} {cs : List Char} {c : Char}

theorem spells_nil : Spells [] cs ↔ cs = [] :=
  ⟨fun h => by cases h; rfl, fun h => h ▸ .nil⟩

theorem spells_this : Spells (.this c :: ps) cs ↔ ∃ rest, cs = c :: rest ∧ Spells ps rest := by
  constructor
  · intro h
    cases h with
    | this h => exact ⟨_, rfl, h⟩
  · rintro ⟨rest, rfl, h⟩
    exact .this h

theorem spells_anyOne :
    Spells (.anyOne :: ps) cs ↔ ∃ c rest, cs = c :: rest ∧ c ≠ '\n' ∧ Spells ps rest := by
  constructor
  · intro h
    cases h with
    | anyOne hc h => exact ⟨_, _, rfl, hc, h⟩
  · rintro ⟨c, rest, rfl, hc, h⟩
    exact .anyOne hc h

theorem spells_anyRun :
    Spells (.anyRun :: ps) cs ↔ ∃ run rest, cs = run ++ rest ∧ '\n' ∉ run ∧ Spells ps rest := by
  constructor
  · intro h
    cases h with
    | anyRun hrun h => exact ⟨_, _, rfl, hrun, h⟩
  · rintro ⟨run, rest, rfl, hrun, h⟩
    exact .anyRun hrun h

theorem has_single {c d : Char} : (CharSet.single c).has d = true ↔ d = c := by
  simp only [CharSet.single, CharSet.has, Bool.and_eq_true, decide_eq_true_eq]
  exact ⟨fun h => Char.le_antisymm h.2 h.1, fun h => h ▸ ⟨Char.le_refl d, Char.le_refl d⟩⟩

theorem has_anyChar {d : Char} : Regex.anyChar.has d = true ↔ d ≠ '\n' := by
  rw [Regex.anyChar, CharSet.has, Bool.not_eq_true', ← Bool.not_eq_true, has_single]

theorem drop_eq_cons {i : Nat} {rest : List Char} (h : cs.drop i = c :: rest) :
    i < cs.length ∧ rest = cs.drop (i + 1) := by
  refine ⟨?_, by rw [← List.tail_drop, h, List.tail_cons]⟩
  have := congrArg List.length h
  simp only [List.length_drop, List.length_cons] at this
  omega

theorem drop_eq_append {i : Nat} {run rest : List Char} (hi : i ≤ cs.length)
    (h : cs.drop i = run ++ rest) :
    i + run.length ≤ cs.length ∧ rest = cs.drop (i + run.length) := by
  refine ⟨?_, by rw [← List.drop_drop, h, List.drop_left]⟩
  have := congrArg List.length h
  simp only [List.length_drop, List.length_append] at this
  omega

/-- The items of pieces match the rest of a text where the pieces spell it. -/
theorem through_iff_spells {i : Nat} (hi : i ≤ cs.length) :
    Regex.Through cs.toArray (ps.map fun p => p.item.regex) i cs.length ↔
      Spells ps (cs.drop i) := by
  induction ps generalizing i with
  | nil =>
    rw [spells_nil, List.drop_eq_nil_iff]
    exact ⟨fun h => Nat.le_of_eq h.symm, fun h => Nat.le_antisymm hi h⟩
  | cons p ps ih =>
    rw [List.map_cons, Regex.Through]
    cases p with
    | this c =>
      simp only [Piece.item, Regex.matches_one, has_single, spells_this]
      constructor
      · rintro ⟨k, ⟨c, hdrop, rfl, rfl⟩, h⟩
        exact ⟨_, hdrop, (ih (drop_eq_cons hdrop).1).1 h⟩
      · rintro ⟨rest, hdrop, h⟩
        obtain ⟨hlt, rfl⟩ := drop_eq_cons hdrop
        exact ⟨i + 1, ⟨c, hdrop, rfl, rfl⟩, (ih hlt).2 h⟩
    | anyOne =>
      simp only [Piece.item, Regex.matches_one, has_anyChar, spells_anyOne]
      constructor
      · rintro ⟨k, ⟨c, hdrop, hc, rfl⟩, h⟩
        exact ⟨c, _, hdrop, hc, (ih (drop_eq_cons hdrop).1).1 h⟩
      · rintro ⟨c, rest, hdrop, hc, h⟩
        obtain ⟨hlt, rfl⟩ := drop_eq_cons hdrop
        exact ⟨i + 1, ⟨c, hdrop, hc, rfl⟩, (ih hlt).2 h⟩
    | anyRun =>
      simp only [Piece.item, Regex.matches_many, has_anyChar, spells_anyRun]
      constructor
      · rintro ⟨k, ⟨run, hdrop, hrun, rfl⟩, h⟩
        obtain ⟨hle, -⟩ := drop_eq_append hi hdrop
        exact ⟨run, _, hdrop, fun hmem => hrun _ hmem rfl, (ih hle).1 h⟩
      · rintro ⟨run, rest, hdrop, hrun, h⟩
        obtain ⟨hle, rfl⟩ := drop_eq_append hi hdrop
        exact ⟨_, ⟨run, hdrop, fun c hc heq => hrun (heq ▸ hc), rfl⟩, (ih hle).2 h⟩

end Glob

/-! ## Filters -/

theorem body_ne_nil (g : Glyph) : g.body ≠ [] := by
  cases g <;> (unfold Glyph.body; grind)

theorem bodyOf_eq_nil {gs : List Glyph} : bodyOf gs = [] ↔ gs = [] := by
  cases gs with
  | nil => simp [bodyOf]
  | cons g gs => simp [bodyOf, body_ne_nil]

/-- A row of pieces between anchors matches the strings that the pieces spell. -/
theorem isMatch_row (ps : List Piece) (s : String) :
    (Regex.anchored (Regex.sequence (ps.map Piece.item).reverse).regex).isMatch s = true ↔
      Glob.Spells ps s.toList := by
  rw [Regex.isMatch_anchored, Regex.matches_sequence, List.map_reverse, List.reverse_reverse,
    List.map_map]
  exact Glob.through_iff_spells (Nat.zero_le _)

/-- A filter from plain glyphs can be read, and accepts what their pieces spell. -/
theorem filterRegex?_filterOf [Regex.Properties] {gs : List Glyph} (h : ∀ g ∈ gs, Glob.IsPlain g) :
    ∃ r, filterRegex? (Pattern.filterOf (bodyOf gs)) = .ok r ∧ ∀ s : String,
      r.all (·.isMatch s) = true ↔
        gs.map pieceOf = [] ∨ Glob.Spells (gs.map pieceOf) s.toList := by
  by_cases hnil : gs = []
  · subst hnil
    exact ⟨none, rfl, fun s => by simp⟩
  · have hbody : (bodyOf gs).isEmpty = false := by simpa [bodyOf_eq_nil] using hnil
    have hread := Regex.read_anchored (fun g hg => readsAs_body (h g hg)) fun g _ =>
      (pieceOf g).item_small
    refine ⟨some _, ?_, fun s => (isMatch_row (gs.map pieceOf) s).trans ?_⟩
    · rw [Pattern.filterOf, hbody, List.map_map]
      simp only [Bool.false_eq_true, ↓reduceIte, filterRegex?, filterRegex, Regex.read,
        String.toList_ofList]
      rw [show bodyOf gs = gs.flatMap Glyph.body from rfl, hread]
      rfl
    · simp [hnil]

/-! ## Patterns -/

/-- Both parts of a pattern without reserved characters outside quotes are plain. -/
theorem isPlain_of_mem_split {cs before : List Char} {after : Option (List Char)}
    (h : ∀ c ∈ Glob.unquoted false cs, Glob.isReserved c = false)
    (hsplit : Glob.splitDot false cs = (before, after)) {g : Glyph}
    (hg : g ∈ (glyphs false before).1 ∨ ∃ rest, after = some rest ∧ g ∈ (glyphs false rest).1) :
    Glob.IsPlain g := by
  rintro c rfl
  refine h c (Glob.mem_unquoted_of_bare (Glob.mem_of_mem_splitAtDot ?_))
  rw [Glob.splitAtDot_glyphs, hsplit]
  refine hg.imp_right ?_
  rintro ⟨rest, hrest, hmem⟩
  exact ⟨_, congrArg (Option.map _) hrest, hmem⟩

theorem filterRegex?_part [Regex.Properties] {part : List Char} (h : ∀ g ∈ (glyphs false part).1, Glob.IsPlain g) :
    ∃ r, filterRegex? (Pattern.filterOf (bodyOf (glyphs false part).1)) = .ok r ∧
      ∀ s : String, r.all (·.isMatch s) = true ↔ Glob.PartAccepts part s := by
  simp only [Glob.PartAccepts, Glob.pieces_eq]
  exact filterRegex?_filterOf h

namespace Pattern

theorem matcher_eq [Regex.Properties] {p : Pattern} {schema name : Option Regex}
    (hschema : filterRegex? (filterOf p.schemaBody) = .ok schema)
    (hname : filterRegex? (filterOf p.nameBody) = .ok name) : p.matcher = .ok ⟨schema, name⟩ := by
  rw [matcher, schemaFilter?, hschema, nameFilter?, hname]
  rfl

theorem compile_of_no_dot {text : String} {name : List Char}
    (h : Glob.splitDot false text.toList = (name, none)) :
    (compile text).schemaBody = [] ∧
      (compile text).nameBody = bodyOf (glyphs false name).1 := by
  have hsplit := Glob.splitAtDot_glyphs false text.toList
  rw [h] at hsplit
  rw [compile_of_unsplit hsplit]
  exact ⟨rfl, rfl⟩

theorem compile_of_dot {text : String} {schema name : List Char}
    (h : Glob.splitDot false text.toList = (schema, some name)) :
    (compile text).schemaBody = bodyOf (glyphs false schema).1 ∧
      (compile text).nameBody = bodyOf (glyphs false name).1 := by
  have hsplit := Glob.splitAtDot_glyphs false text.toList
  rw [h] at hsplit
  rw [compile_of_split hsplit]
  exact ⟨rfl, rfl⟩

/-- Without reserved characters outside quotes the filters of a pattern can be read, and they
accept what the pattern accepts as a glob. -/
theorem matcher_accepts_iff [Regex.Properties] (text : String)
    (h : ∀ c ∈ Glob.unquoted false text.toList, Glob.isReserved c = false) :
    ∃ m, (compile text).matcher = .ok m ∧
      ∀ schema name, m.accepts schema name = true ↔ Glob.Accepts text schema name := by
  simp only [Glob.Accepts]
  rcases hsplit : Glob.splitDot false text.toList with ⟨before, after⟩
  have hplain {g : Glyph} := @isPlain_of_mem_split _ _ _ h hsplit g
  cases after with
  | none =>
    obtain ⟨hschemaBody, hnameBody⟩ := compile_of_no_dot hsplit
    obtain ⟨r, hr, hname⟩ := filterRegex?_part fun g hg => hplain (.inl hg)
    refine ⟨⟨none, r⟩, matcher_eq ?_ ?_, fun schema name => ?_⟩
    · rw [hschemaBody]
      rfl
    · rw [hnameBody, hr]
    · simpa [Matcher.accepts] using hname name
  | some after =>
    obtain ⟨hschemaBody, hnameBody⟩ := compile_of_dot hsplit
    obtain ⟨rs, hrs, hschema⟩ := filterRegex?_part fun g hg => hplain (.inl hg)
    obtain ⟨rn, hrn, hname⟩ := filterRegex?_part fun g hg => hplain (.inr ⟨after, rfl, hg⟩)
    refine ⟨⟨rs, rn⟩, matcher_eq ?_ ?_, fun schema name => ?_⟩
    · rw [hschemaBody, hrs]
    · rw [hnameBody, hrn]
    · rw [Matcher.accepts, Bool.and_eq_true, hschema, hname]

theorem matcher_accepts_quoted_pipe :
    (∀ c ∈ Glob.unquoted false "\"a|b\".Us?r*$".toList, Glob.isReserved c = false) ∧
      ∃ m, (compile "\"a|b\".Us?r*$").matcher = .ok m ∧ m.accepts "a|b" "us1r.x$" = true := by
  have h : ∀ c ∈ Glob.unquoted false "\"a|b\".Us?r*$".toList, Glob.isReserved c = false := by
    simp [Glob.unquoted, Glob.isReserved]
  obtain ⟨m, hm, haccepts⟩ := matcher_accepts_iff _ h
  have hrun : Glob.Spells [.anyRun, .this '$'] ['.', 'x', '$'] :=
    @Glob.Spells.anyRun ['.', 'x'] _ _ (by decide) (.this .nil)
  exact ⟨h, m, hm, (haccepts _ _).2 ⟨.inr (.this (.this (.this .nil))),
    .inr (.this (.this (.anyOne (by decide) (.this hrun))))⟩⟩

end Pattern

end CatalogShell
