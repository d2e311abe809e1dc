import CatalogShell.Proofs.Pattern.Matcher
import CatalogShell.Proofs.Pattern.Qualified
import CatalogShell.Text.Identifier

/-!
# Written identifiers as patterns

An identifier as it is written in a statement is a pattern for just that identifier. It is read as
one glyph for each character, all of them quoted or, where the identifier may stand bare, all of
them bare (`glyphs_quoteIdentChars`). Either way a glyph stands for its character alone: what may
stand in a bare identifier is no capital and has no meaning in patterns.

`Pattern.quoteIdent_accepts_itself`: a schema and a name, written with a dot between them, accept
the pair itself and nothing else. The reader of expressions sets no limit to their length.
-/

namespace CatalogShell

open Glob (Piece pieceOf)

namespace Text

variable {c : Char} {cs : List Char}

theorem ne_of_isBarePart {d : Char} (hc : isBarePart c = true) (hd : isBarePart d = false) :
    c ≠ d := by
  rintro rfl
  rw [hc] at hd
  cases hd

theorem not_isUpper_of_isBarePart (h : isBarePart c = true) : ¬ c.isUpper = true := by
  intro hupper
  have hbounds : c.val ≥ 'A'.val ∧ c.val ≤ 'Z'.val := of_decide_eq_true hupper
  have hlow : 65 ≤ c.val.toNat := hbounds.1
  have hhigh : c.val.toNat ≤ 90 := hbounds.2
  rw [isBarePart, Bool.or_eq_true, Bool.or_eq_true, decide_eq_true_eq] at h
  rcases h with (hlower | hdigit) | rfl
  · have hstart : c.val ≥ 'a'.val := of_decide_eq_true (Bool.and_eq_true_iff.1 hlower).1
    have hfrom : 97 ≤ c.val.toNat := hstart
    omega
  · have hstop : c.val ≤ '9'.val := of_decide_eq_true (Bool.and_eq_true_iff.1 hdigit).2
    have hto : c.val.toNat ≤ 57 := hstop
    omega
  · cases hupper

theorem isBarePart_of_isBare (h : isBare cs = true) : ∀ c ∈ cs, isBarePart c = true := by
  cases cs with
  | nil => cases h
  | cons c cs =>
    rw [isBare, Bool.and_eq_true, List.all_eq_true] at h
    exact h.2

end Text

open Text (isBare isBarePart doubleQuotes quoteIdentChars quoteIdent)

variable {cs : List Char}

/-! ## The glyphs of an identifier -/

/-- The glyphs of an identifier as it is written. -/
def identGlyphs (cs : List Char) : List Glyph :=
  if isBare cs then cs.map .bare else cs.map .quoted

/-- Doubled quotes keep the reader inside quotes. -/
theorem glyphs_doubleQuotes (cs : List Char) :
    glyphs true (doubleQuotes cs) = (cs.map .quoted, true) := by
  induction cs with
  | nil => rfl
  | cons c cs ih =>
    rw [doubleQuotes]
    by_cases hc : c = '"'
    · rw [if_pos hc, glyphs_doubled, ih, hc]
      rfl
    · rw [if_neg hc, glyphs_char true _ hc, ih]
      rfl

theorem glyphs_of_notMem (h : '"' ∉ cs) : glyphs false cs = (cs.map .bare, false) := by
  induction cs with
  | nil => rfl
  | cons c cs ih =>
    rw [List.mem_cons, not_or] at h
    rw [glyphs_char false cs (Ne.symm h.1), ih h.2]
    rfl

theorem glyphs_quoteIdentChars (cs : List Char) :
    glyphs false (quoteIdentChars cs) = (identGlyphs cs, false) := by
  unfold quoteIdentChars identGlyphs
  split
  · next hbare =>
    refine glyphs_of_notMem fun hquote => ?_
    cases Text.isBarePart_of_isBare hbare _ hquote
  · have hinside := glyphs_doubleQuotes cs
    rw [glyphs_quote (by simp), Bool.not_false, glyphs_append (.inl (by rw [hinside])), hinside]
    simp [glyphs]

/-- A glyph of an identifier is quoted, or a character that may stand in a bare identifier. -/
theorem mem_identGlyphs {g : Glyph} (h : g ∈ identGlyphs cs) :
    (∃ c, g = .quoted c) ∨ ∃ c, g = .bare c ∧ isBarePart c = true := by
  unfold identGlyphs at h
  split at h
  · next hbare =>
    obtain ⟨c, hc, rfl⟩ := List.mem_map.1 h
    exact .inr ⟨c, rfl, Text.isBarePart_of_isBare hbare c hc⟩
  · obtain ⟨c, -, rfl⟩ := List.mem_map.1 h
    exact .inl ⟨c, rfl⟩

theorem isPlain_of_mem_identGlyphs {g : Glyph} (h : g ∈ identGlyphs cs) : Glob.IsPlain g := by
  rintro c rfl
  obtain ⟨d, hd⟩ | ⟨d, hd, hpart⟩ := mem_identGlyphs h
  · cases hd
  · cases hd
    rw [← Bool.not_eq_true, Glob.isReserved, List.contains_iff_mem]
    intro hmem
    have hall : ∀ d ∈ ['|', '+', '(', ')', '[', ']', '{', '}', '^', '\\'],
        isBarePart d = false := by simp [isBarePart]
    exact Text.ne_of_isBarePart hpart (hall c hmem) rfl

theorem dot_notMem_identGlyphs (cs : List Char) : .bare '.' ∉ identGlyphs cs := by
  intro h
  obtain ⟨c, hc⟩ | ⟨c, hc, hpart⟩ := mem_identGlyphs h
  · cases hc
  · cases hc
    cases hpart

/-! ## What an identifier accepts -/

theorem pieceOf_bare {c : Char} (h : isBarePart c = true) : pieceOf (.bare c) = .this c := by
  rw [pieceOf, if_neg (Text.ne_of_isBarePart h (by decide)),
    if_neg (Text.ne_of_isBarePart h (by decide)),
    toLower_of_not_isUpper (Text.not_isUpper_of_isBarePart h)]

theorem map_pieceOf_identGlyphs (cs : List Char) :
    (identGlyphs cs).map pieceOf = cs.map .this := by
  unfold identGlyphs
  split
  · next hbare =>
    rw [List.map_map]
    exact List.map_congr_left fun c hc => pieceOf_bare (Text.isBarePart_of_isBare hbare c hc)
  · rw [List.map_map]
    rfl

theorem spells_map_this {ds : List Char} : Glob.Spells (cs.map .this) ds ↔ ds = cs := by
  induction cs generalizing ds with
  | nil => exact Glob.spells_nil
  | cons c cs ih =>
    rw [List.map_cons, Glob.spells_this]
    constructor
    · rintro ⟨rest, rfl, h⟩
      rw [ih.1 h]
    · rintro rfl
      exact ⟨cs, rfl, ih.2 rfl⟩

/-- The filter of an identifier can be read, and accepts the identifier alone. -/
theorem filterRegex?_identGlyphs [Regex.Properties] {s : String} (hs : s ≠ "") :
    ∃ r, filterRegex? (Pattern.filterOf (bodyOf (identGlyphs s.toList))) = .ok r ∧
      ∀ x : String, r.all (·.isMatch x) = true ↔ x = s := by
  have hplain : ∀ g ∈ identGlyphs s.toList, Glob.IsPlain g :=
    fun g hg => isPlain_of_mem_identGlyphs hg
  obtain ⟨r, hr, haccepts⟩ := filterRegex?_filterOf hplain
  refine ⟨r, hr, fun x => ?_⟩
  rw [haccepts, map_pieceOf_identGlyphs, spells_map_this, String.toList_inj]
  simp [hs]

namespace Pattern

theorem glyphs_quoteIdent (s : String) :
    glyphs false (quoteIdent s).toList = (identGlyphs s.toList, false) := by
  rw [quoteIdent, String.toList_ofList, glyphs_quoteIdentChars]

theorem dot_notMem_glyphs_quoteIdent (s : String) :
    .bare '.' ∉ (glyphs false (quoteIdent s).toList).1 := by
  rw [glyphs_quoteIdent]
  exact dot_notMem_identGlyphs _

theorem compile_quoteIdent (t : String) :
    compile (quoteIdent t) = ⟨[], bodyOf (identGlyphs t.toList), false⟩ := by
  rw [compile_undotted (dot_notMem_glyphs_quoteIdent t), glyphs_quoteIdent]

theorem compile_quoteIdent_dot (s t : String) :
    compile (quoteIdent s ++ "." ++ quoteIdent t) =
      ⟨bodyOf (identGlyphs s.toList), bodyOf (identGlyphs t.toList), false⟩ := by
  have hside : (glyphs false (quoteIdent s).toList).2 = false := by rw [glyphs_quoteIdent]
  rw [compile_dotted _ (dot_notMem_glyphs_quoteIdent s) hside, glyphs_quoteIdent,
    glyphs_quoteIdent]

/-- Compiling undoes the quoting of identifiers: a schema and a name, or a name alone, accept just
what they are written for. -/
theorem quoteIdent_accepts_itself [Regex.Properties] (s t : String) (hs : s ≠ "") (ht : t ≠ "") :
    (compile (quoteIdent s ++ "." ++ quoteIdent t)).openQuote = false ∧
    (∃ m, (compile (quoteIdent s ++ "." ++ quoteIdent t)).matcher = .ok m ∧
      ∀ x y, m.accepts x y = true ↔ x = s ∧ y = t) ∧
    ∃ m, (compile (quoteIdent t)).matcher = .ok m ∧ ∀ x y, m.accepts x y = true ↔ y = t := by
  obtain ⟨schema, hschema, hschemaAccepts⟩ := filterRegex?_identGlyphs hs
  obtain ⟨name, hname, hnameAccepts⟩ := filterRegex?_identGlyphs ht
  rw [compile_quoteIdent_dot, compile_quoteIdent]
  refine ⟨rfl, ⟨⟨schema, name⟩, matcher_eq hschema hname, ?_⟩,
    ⟨none, name⟩, matcher_eq rfl hname, ?_⟩
  · intro x y
    rw [Matcher.accepts, Bool.and_eq_true, hschemaAccepts, hnameAccepts]
  · intro x y
    rw [Matcher.accepts, Bool.and_eq_true, hnameAccepts]
    simp

theorem quoteIdent_accepts_itself_books :
    "Old.Books" ≠ "" ∧ "a\"b$*" ≠ "" ∧ (compile "\"Old.Books\".\"a\"\"b$*\"").openQuote = false ∧
    (∃ m, (compile "\"Old.Books\".\"a\"\"b$*\"").matcher = .ok m ∧
      m.accepts "Old.Books" "a\"b$*" = true ∧ m.accepts "old.books" "a\"b$*" = false) ∧
    ∃ m, (compile "\"a\"\"b$*\"").matcher = .ok m ∧ m.accepts "any" "a\"b$*" = true := by
  have hschema : "Old.Books" ≠ "" := by decide
  have hname : "a\"b$*" ≠ "" := by decide
  obtain ⟨hopen, ⟨m, hm, haccepts⟩, m', hm', haccepts'⟩ :=
    quoteIdent_accepts_itself _ _ hschema hname
  have hfolded : m.accepts "old.books" "a\"b$*" = false := by
    rw [← Bool.not_eq_true, haccepts]
    decide
  exact ⟨hschema, hname, hopen, ⟨m, hm, (haccepts _ _).2 ⟨rfl, rfl⟩, hfolded⟩,
    m', hm', (haccepts' _ _).2 rfl⟩

end Pattern

end CatalogShell
