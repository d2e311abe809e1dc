import CatalogShell.Proofs.Regex.Backslash
import CatalogShell.Regex.Reader
import Mathlib.Data.List.TakeDrop
import Mathlib.Data.List.TakeWhile

/-!
# Readers before the end of a group

A filter puts the body of a pattern into a group with an anchor after it, so that the body is read
with `groupEnd` behind it. Here is what that changes for the readers of escapes and of the bounds of
a repetition. An escape may name a set by a property; nothing is assumed about the table of these
names.

* `Extends lost alone followed`: with `groupEnd` behind the text a reader gives what it gives
  without it, and leaves `groupEnd` as well; or it gives nothing without it, and what it leaves
  with it is `lost` for what comes next.
* `Left cs rest`: a reader has taken at least one character off the text.
* `braced`: codes and properties are read in braces, which close within the text or not at all.
* `readEscape_takes`: an escape is taken off with its backslash, and not a part of it.
-/

namespace CatalogShell.Regex

/-- What stands behind the body of a filter. -/
def groupEnd : List Char := [')', '$']

/-- How a reader does without and with `groupEnd` behind its text. -/
inductive Extends {α : Type} (lost : List Char → Prop) (alone followed : Option (α × List Char)) :
    Prop where
  | same {a : α} {rest : List Char} (ha : alone = some (a, rest))
      (hf : followed = some (a, rest ++ groupEnd))
  | lost (ha : alone = none) (hf : ∀ a rest, followed = some (a, rest) → lost rest)

/-- The rest is what is left of the text after one character or more. -/
def Left (cs rest : List Char) : Prop := ∃ c cs', cs = c :: cs' ∧ rest <:+ cs'

namespace Left

variable {c : Char} {cs cs' rest rest' : List Char}

theorem cons (h : rest <:+ cs) : Left (c :: cs) rest := ⟨c, cs, rfl, h⟩

theorem suffix (h : Left cs rest) : rest <:+ cs := by
  obtain ⟨c, cs', rfl, hrest⟩ := h
  exact hrest.trans (List.suffix_cons c cs')

theorem length_lt (h : Left cs rest) : rest.length < cs.length := by
  obtain ⟨c, cs', rfl, hrest⟩ := h
  exact Nat.lt_succ_of_le hrest.length_le

theorem trans (h : Left cs rest) (h' : rest' <:+ rest) : Left cs rest' := by
  obtain ⟨c, cs', rfl, hrest⟩ := h
  exact ⟨c, cs', rfl, h'.trans hrest⟩

end Left

namespace Extends

variable {α β : Type} {lost lost' : List Char → Prop} {x y : Option (α × List Char)}

/-- A reader that takes nothing from behind its text. -/
theorem of_eq_map (h : y = x.map fun (a, rest) => (a, rest ++ groupEnd)) : Extends lost x y := by
  subst h
  cases x with
  | none => exact .lost rfl (by simp)
  | some r => exact .same rfl rfl

theorem mono (h : Extends lost x y) (himp : ∀ rest, lost rest → lost' rest) :
    Extends lost' x y := by
  cases h with
  | same ha hf => exact .same ha hf
  | lost ha hf => exact .lost ha fun a rest hr => himp rest (hf a rest hr)

/-- A reader goes on from what another one leaves. -/
theorem bind {f : α → List Char → Option (β × List Char)} (h : Extends lost x y)
    (hf : ∀ a rest, Extends lost (f a rest) (f a (rest ++ groupEnd)))
    (hlost : ∀ a rest b rest', lost rest → f a rest = some (b, rest') → lost rest') :
    Extends lost (x.bind fun r => f r.1 r.2) (y.bind fun r => f r.1 r.2) := by
  cases h with
  | @same a rest ha hy =>
    subst ha hy
    exact hf a rest
  | lost ha hy =>
    subst ha
    refine .lost rfl ?_
    intro b rest' hb
    obtain ⟨⟨a, rest⟩, hr, hb⟩ := Option.bind_eq_some_iff.1 hb
    exact hlost a rest b rest' (hy a rest hr) hb

end Extends

variable {cs rest : List Char}

/-! ## Spans -/

/-- Only the parenthesis can be at the front because of what stands behind the text. -/
theorem groupEnd_ne_cons {c : Char} (hc : c ≠ ')') (h : ∀ rest, cs ≠ c :: rest) (rest : List Char) :
    cs ++ groupEnd ≠ c :: rest := by
  intro heq
  cases cs with
  | nil => exact hc (List.cons.inj heq).1.symm
  | cons d cs =>
    obtain ⟨rfl, -⟩ := List.cons.inj heq
    exact h cs rfl

theorem dropWhile_groupEnd {p : Char → Bool} (h : p ')' = false) (cs : List Char) :
    (cs ++ groupEnd).dropWhile p = cs.dropWhile p ++ groupEnd := by
  rw [List.dropWhile_append]
  split
  · next hall =>
    rw [List.isEmpty_iff.1 hall]
    exact List.dropWhile_cons_of_neg (by simp [h])
  · rfl

/-- A span that stops at the parenthesis. -/
theorem span_groupEnd {p : Char → Bool} (h : p ')' = false) (cs : List Char) :
    (cs ++ groupEnd).span p = ((cs.span p).1, (cs.span p).2 ++ groupEnd) := by
  have hnone : groupEnd.takeWhile p = [] := List.takeWhile_cons_of_neg (by simp [h])
  have htake : (cs ++ groupEnd).takeWhile p = cs.takeWhile p := by
    rw [List.takeWhile_append, hnone, List.append_nil]
    split
    · next hlen => exact (List.takeWhile_prefix p).eq_of_length hlen |>.symm
    · rfl
  rw [List.span_eq_takeWhile_dropWhile, List.span_eq_takeWhile_dropWhile, htake,
    dropWhile_groupEnd h]

/-- A span that stops within the text, or else does not stop behind it either. -/
theorem span_through {p : Char → Bool} (hclose : p ')' = true) (hstop : p '$' = true)
    (cs : List Char) :
    ((cs.span p).2 = [] ∧ (cs ++ groupEnd).span p = (cs ++ groupEnd, [])) ∨
      (cs.span p).2 ≠ [] ∧
        (cs ++ groupEnd).span p = ((cs.span p).1, (cs.span p).2 ++ groupEnd) := by
  simp only [List.span_eq_takeWhile_dropWhile]
  by_cases hall : ∀ c ∈ cs, p c = true
  · have hend : ∀ c ∈ groupEnd, p c = true := by
      simp [groupEnd, hclose, hstop]
    have hboth : ∀ c ∈ cs ++ groupEnd, p c = true := by
      intro c hc
      exact (List.mem_append.1 hc).elim (hall c) (hend c)
    exact .inl ⟨List.dropWhile_eq_nil_iff.2 hall, by
      rw [List.takeWhile_eq_self_iff.2 hboth, List.dropWhile_eq_nil_iff.2 hboth]⟩
  · have hne : cs.dropWhile p ≠ [] := fun hnil => hall (List.dropWhile_eq_nil_iff.1 hnil)
    have hlen : (cs.takeWhile p).length ≠ cs.length := fun hlen =>
      hall (List.takeWhile_eq_self_iff.1 ((List.takeWhile_prefix p).eq_of_length hlen))
    refine .inr ⟨hne, ?_⟩
    rw [List.takeWhile_append, if_neg hlen, List.dropWhile_append,
      if_neg (by simpa [List.isEmpty_iff] using hne)]

theorem span_suffix (p : Char → Bool) (cs : List Char) : (cs.span p).2 <:+ cs := by
  rw [List.span_eq_takeWhile_dropWhile]
  exact List.dropWhile_suffix p

/-! ## Braces -/

/-- What is made of the text up to a closing brace, and what follows it. -/
def braced {α : Type} (make : List Char → Option α) (cs : List Char) : Option (α × List Char) :=
  match cs.span (· ≠ '}') with
  | (_, []) => none
  | (inside, _ :: rest) => (make inside).map fun a => (a, rest)

/-- A brace that closes within the text is all that counts. -/
theorem braced_groupEnd {α : Type} (make : List Char → Option α) (cs : List Char) :
    braced make (cs ++ groupEnd) =
      (braced make cs).map fun (a, rest) => (a, rest ++ groupEnd) := by
  unfold braced
  rcases hs : cs.span (· ≠ '}') with ⟨inside, after⟩
  rcases span_through (p := (· ≠ '}')) rfl rfl cs with ⟨hnil, hspan⟩ | ⟨hne, hspan⟩
  · rw [hs] at hnil
    rw [hspan, show after = [] from hnil]
    rfl
  · rw [hs] at hne hspan
    obtain ⟨c, rest, rfl⟩ := List.exists_cons_of_ne_nil hne
    rw [hspan]
    dsimp only [List.cons_append]
    rw [Option.map_map]
    rfl

/-- What is taken ends with the closing brace. -/
theorem braced_takesWhole {α : Type} {make : List Char → Option α} {a : α}
    (h : braced make cs = some (a, rest)) : TakesWhole ('{' :: cs) rest := by
  have hhead := List.head?_dropWhile_not (· ≠ '}') cs
  have hsuffix := List.dropWhile_suffix (l := cs) (· ≠ '}')
  rw [braced, List.span_eq_takeWhile_dropWhile] at h
  split at h
  · cases h
  · next inside c after heq =>
    rw [(Prod.mk.inj heq).2] at hhead hsuffix
    obtain rfl : c = '}' := by simpa using hhead
    obtain ⟨a, -, hrest⟩ := Option.map_eq_some_iff.1 h
    cases hrest
    exact .of_suffix (by decide) (hsuffix.trans (List.suffix_cons '{' cs))

/-! ## Escapes -/

theorem hexNumber?_of_mem {c : Char} {ds : List Char} (hc : Text.hexDigit? c = none) (h : c ∈ ds) :
    Text.hexNumber? ds = none := by
  have hnone : ds.mapM Text.hexDigit? = none := by
    induction ds with
    | nil => cases h
    | cons d ds ih =>
      rw [List.mapM_cons]
      rcases List.mem_cons.1 h with rfl | hds
      · rw [hc]
        rfl
      · rw [ih hds]
        cases Text.hexDigit? d <;> rfl
  rw [Text.hexNumber?, hnone]
  rfl

/-- The character that digits stand for. -/
def literal? (digits : List Char) : Option Atom := do
  let c ← (← Text.hexNumber? digits) |> charOfCode?
  return .literal c

theorem literal?_of_mem {c : Char} {ds : List Char} (hc : Text.hexDigit? c = none) (h : c ∈ ds) :
    literal? ds = none := by
  rw [literal?, hexNumber?_of_mem hc h]
  rfl

/-- The character of a code in braces. -/
def bracedLiteral? (digits : List Char) : Option Atom :=
  if digits = [] then none else literal? digits

theorem map_literal? (digits rest : List Char) :
    (do
      let c ← (← Text.hexNumber? digits) |> charOfCode?
      return (.literal c, rest)) = (literal? digits).map fun a => (a, rest) := by
  unfold literal?
  cases Text.hexNumber? digits with
  | none => rfl
  | some n => cases h : charOfCode? n <;> simp [h]

theorem readCode_brace (width : Nat) (cs : List Char) :
    readCode width ('{' :: cs) = braced bracedLiteral? cs := by
  rw [readCode, braced]
  generalize cs.span (· ≠ '}') = span
  obtain ⟨digits, rest⟩ := span
  cases digits with
  | nil => cases rest <;> rfl
  | cons d digits =>
    cases rest with
    | nil => rfl
    | cons c rest => exact map_literal? (d :: digits) rest

/-- A code without braces has a fixed width. -/
theorem readCode_of_not_brace {width : Nat} (h : ∀ rest, cs ≠ '{' :: rest) : readCode width cs =
    if cs.length < width then none
    else (literal? (cs.take width)).map fun a => (a, cs.drop width) := by
  unfold readCode
  split
  · exact absurd rfl (h _)
  · rw [map_literal?]

/-- A code takes no parenthesis: it is no digit, and it does not close braces. -/
theorem readCode_groupEnd (width : Nat) (cs : List Char) : readCode width (cs ++ groupEnd) =
    (readCode width cs).map fun (a, rest) => (a, rest ++ groupEnd) := by
  by_cases hbrace : ∃ rest, cs = '{' :: rest
  · obtain ⟨cs, rfl⟩ := hbrace
    rw [List.cons_append, readCode_brace, readCode_brace]
    exact braced_groupEnd bracedLiteral? cs
  · rw [not_exists] at hbrace
    rw [readCode_of_not_brace hbrace, readCode_of_not_brace (groupEnd_ne_cons (by decide) hbrace),
      List.length_append]
    by_cases hlen : cs.length < width
    · rw [if_pos hlen]
      by_cases hlen' : cs.length + groupEnd.length < width
      · rw [if_pos hlen']
        rfl
      · -- The digits that are missing are looked for behind the text.
        have hmem : ')' ∈ (cs ++ groupEnd).take width := by
          rw [List.take_append]
          refine List.mem_append_right _ ?_
          obtain ⟨n, hn⟩ : ∃ n, width - cs.length = n + 1 := ⟨width - cs.length - 1, by omega⟩
          rw [hn]
          exact List.mem_cons_self
        rw [if_neg hlen', literal?_of_mem rfl hmem]
        rfl
    · have hlen' : ¬ cs.length + groupEnd.length < width := by omega
      rw [if_neg hlen, if_neg hlen', List.take_append_of_le_length (by omega),
        List.drop_append_of_le_length (by omega), Option.map_map]
      rfl

theorem readCode_takesWhole {width : Nat} {a : Atom} (h : readCode width cs = some (a, rest)) :
    TakesWhole cs rest := by
  by_cases hbrace : ∃ rest, cs = '{' :: rest
  · obtain ⟨cs, rfl⟩ := hbrace
    rw [readCode_brace] at h
    exact braced_takesWhole h
  · rw [readCode_of_not_brace (not_exists.1 hbrace)] at h
    split at h
    · cases h
    · obtain ⟨a, hliteral, heq⟩ := Option.map_eq_some_iff.1 h
      cases heq
      have hdigits : '\\' ∉ cs.take width := by
        intro hmem
        rw [literal?_of_mem rfl hmem] at hliteral
        cases hliteral
      refine ⟨cs.take width, (List.take_append_drop width cs).symm, ?_⟩
      rw [backslashesAtEnd_of_notMem hdigits]
      exact Even.zero

theorem readBoundary_groupEnd (cs : List Char) :
    Extends (· = '{' :: groupEnd) (readBoundary cs) (readBoundary (cs ++ groupEnd)) := by
  fun_cases readBoundary cs
  case case1 =>
    -- The brace is told from one that opens a name by the character behind it.
    refine .lost rfl ?_
    intro a rest h
    have hread : readBoundary (['{'] ++ groupEnd) = some (.look .wordBoundary, '{' :: groupEnd) :=
      rfl
    rw [hread] at h
    cases h
    rfl
  case case2 c cs hc name rest hspan =>
    have hspan' := span_groupEnd (p := fun c => c.isAlpha || c = '-') rfl (c :: cs)
    refine .of_eq_map ?_
    simp only [List.cons_append, readBoundary] at hspan' ⊢
    rw [if_pos hc, hspan', hspan, Option.map_map]
    rfl
  case case3 c cs hc hspan =>
    have hspan' := span_groupEnd (p := fun c => c.isAlpha || c = '-') rfl (c :: cs)
    refine .lost rfl ?_
    intro a rest h
    simp only [List.cons_append, readBoundary] at hspan' h
    rw [if_pos hc, hspan'] at h
    generalize hs : (c :: cs).span (fun c => c.isAlpha || c = '-') = span at h
    obtain ⟨name, after⟩ := span
    cases after with
    | nil => cases h
    | cons d after =>
      by_cases hd : d = '}'
      · subst hd
        exact (hspan name after hs).elim
      · split at h
        · next heq => simp_all
        · cases h
  case case4 c cs hc =>
    refine .same rfl ?_
    simp only [List.cons_append, readBoundary]
    exact if_neg hc
  case case5 hbrace hname =>
    refine .same rfl ?_
    cases cs with
    | nil => rfl
    | cons c cs =>
      have hc : c ≠ '{' := by
        rintro rfl
        cases cs with
        | nil => exact hbrace rfl
        | cons d cs => exact hname d cs rfl
      rw [List.cons_append, readBoundary]
      · simp_all
      · simp_all

theorem readBoundary_takesWhole {a : Atom} (h : readBoundary cs = some (a, rest)) :
    TakesWhole cs rest := by
  fun_cases readBoundary cs
  case case1 => cases h
  case case2 c cs hc name after hspan =>
    have hafter : '}' :: after <:+ c :: cs := by
      have hsuffix := span_suffix (fun c => c.isAlpha || c = '-') (c :: cs)
      rwa [show (c :: cs).span (fun c => c.isAlpha || c = '-') = _ from hspan] at hsuffix
    simp only [readBoundary] at h
    rw [if_pos hc, show (c :: cs).span (fun c => c.isAlpha || c = '-') = _ from hspan] at h
    obtain ⟨l, -, heq⟩ := Option.map_eq_some_iff.1 h
    cases heq
    exact .of_suffix (by decide) (hafter.trans (List.suffix_cons '{' _))
  case case3 c cs hc hspan =>
    simp only [readBoundary] at h
    rw [if_pos hc] at h
    split at h
    · next name after heq => exact (hspan name after heq).elim
    · cases h
  case case4 c cs hc =>
    simp only [readBoundary] at h
    rw [if_neg hc] at h
    cases h
    exact .refl _
  case case5 hbrace hname =>
    rw [readBoundary] at h
    · cases h
      exact .refl _
    · exact hbrace
    · exact hname

/-- What an escape leaves if it takes characters from behind its text, or if it is told by them. -/
def Stuck (rest : List Char) : Prop := rest = ['$'] ∨ rest = '{' :: groupEnd

section

variable [Properties]

theorem readProperty_brace (negated : Bool) (cs : List Char) :
    readProperty negated ('{' :: cs) = braced (propertyAtom? negated) cs :=
  rfl

theorem readProperty_letter (negated : Bool) {c : Char} (hbrace : c ≠ '{') (cs : List Char) :
    readProperty negated (c :: cs) =
      if c = '\\' then none else (propertyAtom? negated [c]).map fun a => (a, cs) := by
  rw [readProperty]
  exact hbrace

theorem readProperty_groupEnd (negated : Bool) (cs : List Char) :
    Extends Stuck (readProperty negated cs) (readProperty negated (cs ++ groupEnd)) := by
  cases cs with
  | nil =>
    -- The mark is the last character of the text, and the parenthesis is taken for a name.
    refine .lost rfl ?_
    intro a rest h
    obtain ⟨a, -, heq⟩ := Option.map_eq_some_iff.1 h
    cases heq
    exact .inl rfl
  | cons c cs =>
    rw [List.cons_append]
    by_cases hbrace : c = '{'
    · subst hbrace
      rw [readProperty_brace, readProperty_brace]
      exact .of_eq_map (braced_groupEnd (propertyAtom? negated) cs)
    · rw [readProperty_letter negated hbrace, readProperty_letter negated hbrace]
      split
      · exact .lost rfl (by simp)
      · exact .of_eq_map (by rw [Option.map_map]; rfl)

theorem readProperty_takesWhole {negated : Bool} {a : Atom}
    (h : readProperty negated cs = some (a, rest)) : TakesWhole cs rest := by
  cases cs with
  | nil => cases h
  | cons c cs =>
    by_cases hbrace : c = '{'
    · subst hbrace
      rw [readProperty_brace] at h
      exact braced_takesWhole h
    · rw [readProperty_letter negated hbrace] at h
      split at h
      · cases h
      · next hbackslash =>
        obtain ⟨a, -, heq⟩ := Option.map_eq_some_iff.1 h
        cases heq
        exact .cons hbackslash (.refl _)

/-- What the character after the backslash decides about the rest of an escape. -/
theorem readEscape_cons (c : Char) :
    (∃ a, ∀ cs, readEscape (c :: cs) = some (a, cs)) ∨
    (∃ width, ∀ cs, readEscape (c :: cs) = readCode width cs) ∨
    (∃ negated, ∀ cs, readEscape (c :: cs) = readProperty negated cs) ∨
    (∀ cs, readEscape (c :: cs) = readBoundary cs) ∨
    ∀ cs, readEscape (c :: cs) = none := by
  obtain ⟨escape, hescape⟩ : ∃ escape, [c] = escape := ⟨_, rfl⟩
  fun_cases readEscape escape
  all_goals cases hescape
  case case8 => exact .inr (.inr (.inl ⟨false, fun _ => rfl⟩))
  case case9 => exact .inr (.inr (.inl ⟨true, fun _ => rfl⟩))
  case case10 => exact .inr (.inl ⟨2, fun _ => rfl⟩)
  case case11 => exact .inr (.inl ⟨4, fun _ => rfl⟩)
  case case12 => exact .inr (.inl ⟨8, fun _ => rfl⟩)
  case case21 => exact .inr (.inr (.inr (.inl fun _ => rfl)))
  case case25 h => exact .inl ⟨.literal c, fun cs => by simp_all [readEscape]⟩
  case case26 h => exact .inr (.inr (.inr (.inr fun cs => by simp_all [readEscape])))
  all_goals exact .inl ⟨_, fun _ => rfl⟩

theorem readEscape_groupEnd (cs : List Char) :
    Extends Stuck (readEscape cs) (readEscape (cs ++ groupEnd)) := by
  cases cs with
  | nil =>
    -- The backslash is the last character of the text, and escapes the parenthesis.
    refine .lost rfl ?_
    intro a rest h
    have hread : readEscape ([] ++ groupEnd) = some (.literal ')', ['$']) := rfl
    rw [hread] at h
    cases h
    exact .inl rfl
  | cons c cs =>
    rw [List.cons_append]
    rcases readEscape_cons c with ⟨a, h⟩ | ⟨width, h⟩ | ⟨negated, h⟩ | h | h
    · exact .same (h cs) (h _)
    · rw [h, h]
      exact .of_eq_map (readCode_groupEnd width cs)
    · rw [h, h]
      exact readProperty_groupEnd negated cs
    · rw [h, h]
      exact (readBoundary_groupEnd cs).mono fun rest hrest => .inr hrest
    · exact .lost (h cs) (by simp [h])

/-- What an escape takes off the text, after its backslash and together with it. -/
theorem readEscape_takes {a : Atom} (h : readEscape cs = some (a, rest)) :
    Left cs rest ∧ TakesWhole ('\\' :: cs) rest := by
  cases cs with
  | nil => cases h
  | cons c cs =>
    by_cases hbackslash : c = '\\'
    · subst hbackslash
      cases h
      exact ⟨.cons List.suffix_rfl, .doubled (.refl rest)⟩
    · have hpair : TakesWhole ('\\' :: c :: cs) cs :=
        .of_suffix hbackslash (List.suffix_cons '\\' (c :: cs))
      have hrest : TakesWhole cs rest := by
        rcases readEscape_cons c with ⟨a, hc⟩ | ⟨width, hc⟩ | ⟨negated, hc⟩ | hc | hc
        · rw [hc] at h
          cases h
          exact .refl rest
        · rw [hc] at h
          exact readCode_takesWhole h
        · rw [hc] at h
          exact readProperty_takesWhole h
        · rw [hc] at h
          exact readBoundary_takesWhole h
        · rw [hc] at h
          cases h
      exact ⟨.cons hrest.suffix, hpair.trans hrest⟩

theorem readEscape_left {a : Atom} (h : readEscape cs = some (a, rest)) : Left cs rest :=
  (readEscape_takes h).1

end

/-! ## Bounds of repetitions -/

theorem readBound_groupEnd (cs : List Char) :
    readBound (cs ++ groupEnd) = (readBound cs).map fun (n, rest) => (n, rest ++ groupEnd) := by
  have hblank : Text.isBlank ')' = false := by decide
  unfold readBound
  rw [dropWhile_groupEnd hblank, span_groupEnd (by decide)]
  rcases (cs.dropWhile Text.isBlank).span Char.isDigit with ⟨digits, rest⟩
  dsimp only
  split
  · rfl
  · rw [dropWhile_groupEnd hblank]
    rfl

theorem readBound_suffix {n : Nat} (h : readBound cs = some (n, rest)) : rest <:+ cs := by
  unfold readBound at h
  have hspan := span_suffix Char.isDigit (cs.dropWhile Text.isBlank)
  rcases hs : (cs.dropWhile Text.isBlank).span Char.isDigit with ⟨digits, after⟩
  rw [hs] at h hspan
  dsimp only at h
  split at h
  · cases h
  · cases h
    exact (List.dropWhile_suffix _).trans (hspan.trans (List.dropWhile_suffix _))

/-- The end of the bounds after both of them. -/
def boundsEnd (least most : Nat) (cs : List Char) : Option (Nat × Option Nat × List Char) :=
  match cs with
  | '}' :: rest => if least ≤ most then some (least, some most, rest) else none
  | _ => none

/-- The bounds after the first one. -/
def boundsAfter (least : Nat) (cs : List Char) : Option (Nat × Option Nat × List Char) :=
  match cs with
  | '}' :: rest => some (least, some least, rest)
  | ',' :: '}' :: rest => some (least, none, rest)
  | ',' :: rest => (readBound rest).bind fun (most, rest) => boundsEnd least most rest
  | _ => none

theorem readBounds_eq (cs : List Char) :
    readBounds cs = (readBound cs).bind fun (least, rest) => boundsAfter least rest :=
  rfl

theorem boundsEnd_groupEnd (least most : Nat) (cs : List Char) :
    boundsEnd least most (cs ++ groupEnd) =
      (boundsEnd least most cs).map fun (least, most, rest) => (least, most, rest ++ groupEnd) := by
  fun_cases boundsEnd least most cs
  case case1 rest hle => exact if_pos hle
  case case2 rest hle => exact if_neg hle
  case case3 hbrace =>
    rw [boundsEnd]
    · rfl
    · exact groupEnd_ne_cons (by decide) hbrace

theorem boundsAfter_groupEnd (least : Nat) (cs : List Char) : boundsAfter least (cs ++ groupEnd) =
    (boundsAfter least cs).map fun (least, most, rest) => (least, most, rest ++ groupEnd) := by
  fun_cases boundsAfter least cs
  case case1 rest => rfl
  case case2 rest => rfl
  case case3 rest hbrace =>
    rw [List.cons_append, boundsAfter, readBound_groupEnd]
    · cases readBound rest with
      | none => rfl
      | some bound => exact boundsEnd_groupEnd least bound.1 bound.2
    · exact groupEnd_ne_cons (by decide) hbrace
  case case4 hbrace hboth hcomma =>
    rw [boundsAfter]
    · rfl
    · exact groupEnd_ne_cons (by decide) hbrace
    · exact fun rest => groupEnd_ne_cons (by decide) hcomma ('}' :: rest)
    · exact groupEnd_ne_cons (by decide) hcomma

theorem readBounds_groupEnd (cs : List Char) : readBounds (cs ++ groupEnd) =
    (readBounds cs).map fun (least, most, rest) => (least, most, rest ++ groupEnd) := by
  rw [readBounds_eq, readBounds_eq, readBound_groupEnd]
  cases readBound cs with
  | none => rfl
  | some bound => exact boundsAfter_groupEnd bound.1 bound.2

/-- What is left comes after a closing brace. -/
theorem boundsEnd_close {least most least' : Nat} {most' : Option Nat}
    (h : boundsEnd least most cs = some (least', most', rest)) : '}' :: rest <:+ cs := by
  fun_cases boundsEnd least most cs
  case case1 after hle =>
    rw [boundsEnd, if_pos hle] at h
    cases h
    exact List.suffix_rfl
  case case2 after hle =>
    rw [boundsEnd, if_neg hle] at h
    cases h
  case case3 hbrace =>
    rw [boundsEnd] at h
    · cases h
    · exact hbrace

theorem boundsAfter_close {least least' : Nat} {most : Option Nat}
    (h : boundsAfter least cs = some (least', most, rest)) : '}' :: rest <:+ cs := by
  fun_cases boundsAfter least cs
  case case1 after =>
    cases h
    exact List.suffix_rfl
  case case2 after =>
    cases h
    exact List.suffix_cons ',' _
  case case3 after hbrace =>
    rw [boundsAfter] at h
    · obtain ⟨⟨most', last⟩, hmost, hlast⟩ := Option.bind_eq_some_iff.1 h
      exact (boundsEnd_close hlast).trans
        ((readBound_suffix hmost).trans (List.suffix_cons ',' after))
    · exact hbrace
  case case4 hbrace hboth hcomma =>
    rw [boundsAfter] at h
    · cases h
    · exact hbrace
    · exact hboth
    · exact hcomma

theorem readBounds_close {least : Nat} {most : Option Nat}
    (h : readBounds cs = some (least, most, rest)) : '}' :: rest <:+ cs := by
  rw [readBounds_eq] at h
  obtain ⟨⟨first, after⟩, hfirst, hafter⟩ := Option.bind_eq_some_iff.1 h
  exact (boundsAfter_close hafter).trans (readBound_suffix hfirst)

end CatalogShell.Regex
