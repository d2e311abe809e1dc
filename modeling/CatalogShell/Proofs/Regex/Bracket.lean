import CatalogShell.Proofs.Regex.GroupEnd

/-!
# Bracketed sets before the end of a group

A bracketed set is closed by a bracket, which does not stand behind the body of a filter. So a set
is read within the body or not at all (`readSet_groupEnd`).

* `setsClose`: a set is read up to a closing bracket, and not without one.
* `readSetItem_groupEnd`: an item that takes characters from behind the body leaves no such bracket.
* `setsAgree`: with enough steps, `groupEnd` makes no difference.
-/

namespace CatalogShell.Regex

variable {cs rest : List Char}

/-! ## Openings and named classes -/

theorem negation_groupEnd (cs : List Char) :
    negation (cs ++ groupEnd) = ((negation cs).1, (negation cs).2 ++ groupEnd) := by
  fun_cases negation cs
  case case1 => rfl
  case case2 hcaret =>
    rw [negation]
    exact groupEnd_ne_cons (by decide) hcaret

theorem negation_suffix (cs : List Char) : (negation cs).2 <:+ cs := by
  fun_cases negation cs
  case case1 => exact List.suffix_cons '^' _
  case case2 => exact List.suffix_rfl

theorem openingAfter_groupEnd (negated : Bool) (cs : List Char) :
    openingAfter negated (cs ++ groupEnd) =
      let (negated, opening, rest) := openingAfter negated cs
      (negated, opening, rest ++ groupEnd) := by
  fun_cases openingAfter negated cs
  case case1 cs hyphens =>
    have hspan := span_groupEnd (p := (· = '-')) (by decide) ('-' :: cs)
    rw [List.span_eq_takeWhile_dropWhile, List.span_eq_takeWhile_dropWhile,
      List.cons_append] at hspan
    obtain ⟨htake, hdrop⟩ := Prod.mk.inj hspan
    rw [List.cons_append, openingAfter, htake, hdrop]
  case case2 => rfl
  case case3 hhyphen hbracket =>
    rw [openingAfter]
    · exact groupEnd_ne_cons (by decide) hhyphen
    · exact groupEnd_ne_cons (by decide) hbracket

theorem openingAfter_suffix (negated : Bool) (cs : List Char) :
    (openingAfter negated cs).2.2 <:+ cs := by
  fun_cases openingAfter negated cs
  case case1 => exact List.dropWhile_suffix _
  case case2 => exact List.suffix_cons ']' _
  case case3 => exact List.suffix_rfl

theorem readSetOpening_eq (cs : List Char) :
    readSetOpening cs = openingAfter (negation cs).1 (negation cs).2 :=
  rfl

theorem readSetOpening_groupEnd (cs : List Char) : readSetOpening (cs ++ groupEnd) =
    let (negated, opening, rest) := readSetOpening cs
    (negated, opening, rest ++ groupEnd) := by
  rw [readSetOpening_eq, readSetOpening_eq, negation_groupEnd, openingAfter_groupEnd]

theorem readSetOpening_suffix (cs : List Char) : (readSetOpening cs).2.2 <:+ cs :=
  (openingAfter_suffix _ _).trans (negation_suffix cs)

theorem classAfter_groupEnd (negated : Bool) (cs : List Char) :
    classAfter negated (cs ++ groupEnd) =
      (classAfter negated cs).map fun (s, rest) => (s, rest ++ groupEnd) := by
  fun_cases classAfter negated cs
  case case1 name rest hs =>
    rcases span_through (p := (· ≠ ':')) rfl rfl cs with ⟨hafter, -⟩ | ⟨-, hspan⟩
    · rw [hs] at hafter
      cases hafter
    · rw [classAfter, hspan, hs, Option.map_map]
      rfl
  case case2 hs =>
    unfold classAfter
    rcases span_through (p := (· ≠ ':')) rfl rfl cs with ⟨-, hspan⟩ | ⟨hafter, hspan⟩
    · rw [hspan]
      rfl
    · rw [hspan]
      split
      · next name rest heq =>
        -- What stands behind the text has no bracket, so both characters are in the text.
        obtain ⟨rfl, hrest⟩ := Prod.mk.inj heq
        rcases hcs : (cs.span (· ≠ ':')).2 with _ | ⟨d, _ | ⟨e, after⟩⟩
        · exact absurd hcs hafter
        · rw [hcs] at hrest
          cases hrest
        · rw [hcs] at hrest
          cases hrest
          exact (hs _ after (Prod.ext rfl hcs)).elim
      · rfl

theorem classAfter_suffix {negated : Bool} {s : CharSet}
    (h : classAfter negated cs = some (s, rest)) : ']' :: rest <:+ cs := by
  unfold classAfter at h
  have hsuffix := span_suffix (· ≠ ':') cs
  split at h
  · next name after hspan =>
    rw [hspan] at hsuffix
    obtain ⟨s, -, heq⟩ := Option.map_eq_some_iff.1 h
    cases heq
    exact (List.suffix_cons ':' _).trans hsuffix
  · cases h

theorem readAsciiClass_colon (cs : List Char) :
    readAsciiClass (':' :: cs) = classAfter (negation cs).1 (negation cs).2 :=
  rfl

theorem readAsciiClass_of_ne (h : ∀ rest, cs ≠ ':' :: rest) : readAsciiClass cs = none := by
  unfold readAsciiClass
  split
  · exact absurd rfl (h _)
  · rfl

theorem readAsciiClass_groupEnd (cs : List Char) : readAsciiClass (cs ++ groupEnd) =
    (readAsciiClass cs).map fun (s, rest) => (s, rest ++ groupEnd) := by
  by_cases hcolon : ∃ rest, cs = ':' :: rest
  · obtain ⟨cs, rfl⟩ := hcolon
    rw [List.cons_append, readAsciiClass_colon, readAsciiClass_colon, negation_groupEnd,
      classAfter_groupEnd]
  · rw [not_exists] at hcolon
    rw [readAsciiClass_of_ne hcolon, readAsciiClass_of_ne (groupEnd_ne_cons (by decide) hcolon)]
    rfl

theorem readAsciiClass_suffix {s : CharSet} (h : readAsciiClass cs = some (s, rest)) :
    ']' :: rest <:+ cs := by
  by_cases hcolon : ∃ rest, cs = ':' :: rest
  · obtain ⟨cs, rfl⟩ := hcolon
    rw [readAsciiClass_colon] at h
    exact (classAfter_suffix h).trans ((negation_suffix cs).trans (List.suffix_cons ':' cs))
  · rw [readAsciiClass_of_ne (not_exists.1 hcolon)] at h
    cases h

/-! ## Items -/

theorem groupEnd_ne_cons_cons {c d : Char} (hc : c ≠ ')') (hd : d ≠ ')')
    (h : ∀ rest, cs ≠ c :: d :: rest) (rest : List Char) : cs ++ groupEnd ≠ c :: d :: rest := by
  intro heq
  cases cs with
  | nil => exact hc (List.cons.inj heq).1.symm
  | cons e cs =>
    obtain ⟨rfl, htail⟩ := List.cons.inj heq
    exact groupEnd_ne_cons hd (fun rest hcs => h rest (congrArg (List.cons e) hcs)) rest htail

/-- The text starts with an item of a set, and with no bracket or operation. -/
structure StartsItem (cs : List Char) : Prop where
  nil : cs ≠ []
  close : ∀ rest, cs ≠ ']' :: rest
  open_ : ∀ rest, cs ≠ '[' :: rest
  inter : ∀ rest, cs ≠ '&' :: '&' :: rest
  diff : ∀ rest, cs ≠ '-' :: '-' :: rest
  symmDiff : ∀ rest, cs ≠ '~' :: '~' :: rest

theorem StartsItem.groupEnd (h : StartsItem cs) : StartsItem (cs ++ groupEnd) where
  nil heq := h.nil (List.append_eq_nil_iff.1 heq).1
  close := groupEnd_ne_cons (by decide) h.close
  open_ := groupEnd_ne_cons (by decide) h.open_
  inter := groupEnd_ne_cons_cons (by decide) (by decide) h.inter
  diff := groupEnd_ne_cons_cons (by decide) (by decide) h.diff
  symmDiff := groupEnd_ne_cons_cons (by decide) (by decide) h.symmDiff

theorem not_mem_of_suffix {c : Char} (h : c ∉ cs) (hrest : rest <:+ cs) : c ∉ rest :=
  fun hc => h (hrest.subset hc)

/-- The range between two literal characters. -/
def rangeOf (first last : Atom) (rest : List Char) : Option (CharSet × List Char) :=
  match first, last with
  | .literal low, .literal high => if low ≤ high then some (.range low high, rest) else none
  | _, _ => none

theorem rangeOf_groupEnd (first last : Atom) (cs : List Char) :
    rangeOf first last (cs ++ groupEnd) =
      (rangeOf first last cs).map fun (s, rest) => (s, rest ++ groupEnd) := by
  unfold rangeOf
  split
  · split <;> rfl
  · rfl

theorem eq_of_rangeOf {first last : Atom} {s : CharSet}
    (h : rangeOf first last cs = some (s, rest)) : rest = cs := by
  unfold rangeOf at h
  split at h
  · split at h
    · cases h
      rfl
    · cases h
  · cases h

section

variable [Properties]

theorem readSetAtom_of_ne {c : Char} (hc : c ≠ '\\') (cs : List Char) :
    readSetAtom (c :: cs) = some (.literal c, cs) := by
  unfold readSetAtom
  split
  · contradiction
  · next heq => exact absurd (List.cons.inj heq).1 hc
  · next heq =>
    obtain ⟨rfl, rfl⟩ := List.cons.inj heq
    rfl

theorem readSetAtom_groupEnd (cs : List Char) :
    Extends (']' ∉ ·) (readSetAtom cs) (readSetAtom (cs ++ groupEnd)) := by
  cases cs with
  | nil =>
    refine .lost rfl ?_
    intro a rest h
    cases h
    decide
  | cons c cs =>
    by_cases hc : c = '\\'
    · subst hc
      refine (readEscape_groupEnd cs).mono ?_
      rintro rest (rfl | rfl) <;> decide
    · exact .same (readSetAtom_of_ne hc cs) (readSetAtom_of_ne hc (cs ++ groupEnd))

theorem readSetAtom_left {a : Atom} (h : readSetAtom cs = some (a, rest)) : Left cs rest := by
  cases cs with
  | nil => cases h
  | cons c cs =>
    by_cases hc : c = '\\'
    · subst hc
      exact .cons (readEscape_left h).suffix
    · rw [readSetAtom_of_ne hc] at h
      cases h
      exact .cons List.suffix_rfl

/-- An item after its first atom. -/
def itemAfter (first : Atom) (rest : List Char) : Option (CharSet × List Char) :=
  match rest with
  | [] => none
  | '-' :: ']' :: _ => first.set?.map fun s => (s, rest)
  | '-' :: '-' :: _ => first.set?.map fun s => (s, rest)
  | '-' :: after => (readSetAtom after).bind fun (last, after) => rangeOf first last after
  | _ => first.set?.map fun s => (s, rest)

theorem readSetItem_eq (cs : List Char) :
    readSetItem cs = (readSetAtom cs).bind fun (first, rest) => itemAfter first rest :=
  rfl

theorem itemAfter_suffix {first : Atom} {s : CharSet} (h : itemAfter first cs = some (s, rest)) :
    rest <:+ cs := by
  have hsingle : first.set?.map (fun s => (s, cs)) = some (s, rest) → rest <:+ cs := by
    intro h
    obtain ⟨s, -, heq⟩ := Option.map_eq_some_iff.1 h
    cases heq
    exact List.suffix_rfl
  unfold itemAfter at h
  split at h
  · cases h
  · exact hsingle h
  · exact hsingle h
  · next after _ _ =>
    obtain ⟨⟨last, after'⟩, hlast, hrange⟩ := Option.bind_eq_some_iff.1 h
    rw [eq_of_rangeOf hrange]
    exact (readSetAtom_left hlast).suffix.trans (List.suffix_cons '-' after)
  · exact hsingle h

/-- An item that is cut off by the end of the text leaves no closing bracket. -/
theorem itemAfter_groupEnd (first : Atom) (cs : List Char) :
    Extends (']' ∉ ·) (itemAfter first cs) (itemAfter first (cs ++ groupEnd)) := by
  have hsingle : Extends (']' ∉ ·) (first.set?.map fun s => (s, cs))
      (first.set?.map fun s => (s, cs ++ groupEnd)) := by
    refine .of_eq_map ?_
    rw [Option.map_map]
    rfl
  fun_cases itemAfter first cs
  case case1 =>
    refine .lost rfl ?_
    intro s rest h
    exact not_mem_of_suffix (by decide) (itemAfter_suffix h)
  case case2 => exact hsingle
  case case3 => exact hsingle
  case case4 after hbracket hhyphen =>
    cases after with
    | nil =>
      refine .lost rfl ?_
      intro s rest h
      exact not_mem_of_suffix (by decide) (itemAfter_suffix h)
    | cons c after =>
      have hfollowed : itemAfter first ('-' :: c :: after ++ groupEnd) =
          (readSetAtom (c :: after ++ groupEnd)).bind fun (last, rest) =>
            rangeOf first last rest := by
        rw [List.cons_append, itemAfter]
        · exact fun rest heq => hbracket after (by rw [(List.cons.inj heq).1])
        · exact fun rest heq => hhyphen after (by rw [(List.cons.inj heq).1])
      rw [hfollowed]
      refine (readSetAtom_groupEnd (c :: after)).bind
        (fun last rest => .of_eq_map (rangeOf_groupEnd first last rest)) ?_
      intro last rest s rest' hrest h
      exact (eq_of_rangeOf h).symm ▸ hrest
  case case5 hnil hbracket hhyphens hhyphen =>
    have hfollowed : itemAfter first (cs ++ groupEnd) =
        first.set?.map fun s => (s, cs ++ groupEnd) := by
      rw [itemAfter]
      · exact fun heq => hnil (List.append_eq_nil_iff.1 heq).1
      · exact fun rest => groupEnd_ne_cons (by decide) hhyphen (']' :: rest)
      · exact fun rest => groupEnd_ne_cons (by decide) hhyphen ('-' :: rest)
      · exact groupEnd_ne_cons (by decide) hhyphen
    rw [hfollowed]
    exact hsingle

theorem readSetItem_groupEnd (cs : List Char) :
    Extends (']' ∉ ·) (readSetItem cs) (readSetItem (cs ++ groupEnd)) := by
  rw [readSetItem_eq, readSetItem_eq]
  refine (readSetAtom_groupEnd cs).bind itemAfter_groupEnd ?_
  intro first rest s rest' hrest h
  exact not_mem_of_suffix hrest (itemAfter_suffix h)

theorem readSetItem_left {s : CharSet} (h : readSetItem cs = some (s, rest)) : Left cs rest := by
  rw [readSetItem_eq] at h
  obtain ⟨⟨first, after⟩, hfirst, hafter⟩ := Option.bind_eq_some_iff.1 h
  exact (readSetAtom_left hfirst).trans (itemAfter_suffix hafter)

/-! ## Sets -/

theorem readSet_succ (fuel : Nat) (cs : List Char) : readSet (fuel + 1) cs =
    let (negated, opening, rest) := readSetOpening cs
    (readSetItems fuel none opening rest).map fun (part, rest) =>
      (bracketed negated part, rest) := by
  rw [readSet]
  dsimp only
  cases readSetItems fuel none (readSetOpening cs).2.1 (readSetOpening cs).2.2 <;> rfl

/-- With so many steps, what is read of a set ends with a closing bracket. -/
structure SetsClose (fuel : Nat) : Prop where
  set : ∀ {cs s rest}, readSet fuel cs = some (s, rest) → ']' :: rest <:+ cs
  items : ∀ {left items cs s rest}, readSetItems fuel left items cs = some (s, rest) →
    ']' :: rest <:+ cs

theorem SetsClose.succ {fuel : Nat} (h : SetsClose fuel) : SetsClose (fuel + 1) where
  set {cs s rest} hs := by
    rw [readSet_succ] at hs
    obtain ⟨⟨s, rest⟩, hitems, heq⟩ := Option.map_eq_some_iff.1 hs
    cases heq
    exact (h.items hitems).trans (readSetOpening_suffix cs)
  items {left items cs s rest} hs := by
    unfold readSetItems at hs
    split at hs
    · cases hs
    · cases hs
      exact List.suffix_rfl
    · next after =>
      split at hs
      · next s after' hclass =>
        have hafter := (List.suffix_cons ']' after').trans (readAsciiClass_suffix hclass)
        exact (h.items hs).trans (hafter.trans (List.suffix_cons '[' after))
      · split at hs
        · cases hs
        · next s after' hset =>
          have hafter := (List.suffix_cons ']' after').trans (h.set hset)
          exact (h.items hs).trans (hafter.trans (List.suffix_cons '[' after))
    · next after => exact (h.items hs).trans (List.suffix_append ['&', '&'] after)
    · next after => exact (h.items hs).trans (List.suffix_append ['-', '-'] after)
    · next after => exact (h.items hs).trans (List.suffix_append ['~', '~'] after)
    · split at hs
      · cases hs
      · next s after hitem => exact (h.items hs).trans (readSetItem_left hitem).suffix

theorem setsClose (fuel : Nat) : SetsClose fuel := by
  induction fuel with
  | zero =>
    constructor
    · intro cs s rest h
      simp [readSet] at h
    · intro left items cs s rest h
      simp [readSetItems] at h
  | succ fuel ih => exact ih.succ

/-- Without a closing bracket there are no items. -/
theorem readSetItems_eq_none (fuel : Nat) (left : Option (SetOp × SetPart)) (items : List SetPart)
    (h : ']' ∉ cs) : readSetItems fuel left items cs = none := by
  cases hs : readSetItems fuel left items cs with
  | none => rfl
  | some r => exact absurd (((setsClose fuel).items hs).subset List.mem_cons_self) h

theorem StartsItem.readSetItems (h : StartsItem cs) (fuel : Nat) (left : Option (SetOp × SetPart))
    (items : List SetPart) : readSetItems (fuel + 1) left items cs =
      (readSetItem cs).bind fun (set, rest) =>
        readSetItems fuel left (.leaf set :: items) rest := by
  rw [Regex.readSetItems]
  · cases readSetItem cs <;> rfl
  · exact h.nil
  · exact h.close
  · exact h.open_
  · exact h.inter
  · exact h.diff
  · exact h.symmDiff

/-- With enough steps a set is read with `groupEnd` behind the text as it is without. -/
structure SetsAgree (fuel : Nat) : Prop where
  set : ∀ {fuel' cs}, 2 * cs.length + 2 ≤ fuel → 2 * cs.length + 6 ≤ fuel' →
    readSet fuel' (cs ++ groupEnd) =
      (readSet fuel cs).map fun (s, rest) => (s, rest ++ groupEnd)
  items : ∀ {fuel' left items cs}, 2 * cs.length + 1 ≤ fuel → 2 * cs.length + 5 ≤ fuel' →
    readSetItems fuel' left items (cs ++ groupEnd) =
      (readSetItems fuel left items cs).map fun (s, rest) => (s, rest ++ groupEnd)

theorem SetsAgree.succ {fuel : Nat} (h : SetsAgree fuel) : SetsAgree (fuel + 1) where
  set {fuel' cs} hfuel hfuel' := by
    obtain ⟨fuel', rfl⟩ : ∃ n, fuel' = n + 1 := ⟨fuel' - 1, by omega⟩
    have hlen := (readSetOpening_suffix cs).length_le
    rw [readSet_succ, readSet_succ, readSetOpening_groupEnd]
    generalize readSetOpening cs = o at hlen ⊢
    obtain ⟨negated, opening, rest⟩ := o
    dsimp only at hlen ⊢
    rw [h.items (by omega) (by omega), Option.map_map, Option.map_map]
    rfl
  items {fuel' left items cs} hfuel hfuel' := by
    obtain ⟨fuel', rfl⟩ : ∃ n, fuel' = n + 1 := ⟨fuel' - 1, by omega⟩
    obtain ⟨steps, hsteps⟩ : ∃ n, n = fuel + 1 := ⟨_, rfl⟩
    rw [← hsteps] at hfuel ⊢
    fun_cases readSetItems steps left items cs
    case case1 => cases hsteps
    all_goals cases hsteps
    case case2 => exact readSetItems_eq_none _ _ _ (by decide)
    case case3 rest =>
      rw [List.cons_append, readSetItems]
      rfl
    case case4 cs s rest hclass =>
      have hlen := (readAsciiClass_suffix hclass).length_le
      simp only [List.length_cons] at hfuel hfuel' hlen
      rw [List.cons_append, readSetItems, readAsciiClass_groupEnd, hclass]
      exact h.items (by omega) (by omega)
    case case5 cs hclass hset =>
      simp only [List.length_cons] at hfuel hfuel'
      rw [List.cons_append, readSetItems, readAsciiClass_groupEnd, hclass]
      simp only [Option.map_none]
      rw [h.set (by omega) (by omega), hset]
      rfl
    case case6 cs hclass s rest hset =>
      have hlen := ((setsClose fuel).set hset).length_le
      simp only [List.length_cons] at hfuel hfuel' hlen
      rw [List.cons_append, readSetItems, readAsciiClass_groupEnd, hclass]
      simp only [Option.map_none]
      rw [h.set (by omega) (by omega), hset]
      exact h.items (by omega) (by omega)
    case case7 cs | case8 cs | case9 cs =>
      simp only [List.length_cons] at hfuel hfuel'
      rw [List.cons_append, List.cons_append, readSetItems]
      exact h.items (by omega) (by omega)
    case case10 hnil hclose hopen hinter hdiff hsymm hitem =>
      have hstarts : StartsItem cs := ⟨hnil, hclose, hopen, hinter, hdiff, hsymm⟩
      rw [hstarts.groupEnd.readSetItems]
      cases readSetItem_groupEnd cs with
      | same ha hf =>
        rw [hitem] at ha
        cases ha
      | lost ha hf =>
        cases hfollowed : readSetItem (cs ++ groupEnd) with
        | none => rfl
        | some r => exact readSetItems_eq_none _ _ _ (hf r.1 r.2 hfollowed)
    case case11 s rest hnil hclose hopen hinter hdiff hsymm hitem =>
      have hstarts : StartsItem cs := ⟨hnil, hclose, hopen, hinter, hdiff, hsymm⟩
      have hlen := (readSetItem_left hitem).length_lt
      rw [hstarts.groupEnd.readSetItems]
      cases readSetItem_groupEnd cs with
      | same ha hf =>
        rw [hitem] at ha
        cases ha
        rw [hf]
        exact h.items (by omega) (by omega)
      | lost ha hf =>
        rw [hitem] at ha
        cases ha

theorem setsAgree (fuel : Nat) : SetsAgree fuel := by
  induction fuel with
  | zero =>
    constructor
    · intro fuel' cs hfuel _
      omega
    · intro fuel' left items cs hfuel _
      omega
  | succ fuel ih => exact ih.succ

/-- A set is read within its text or not at all. -/
theorem readSet_groupEnd (cs : List Char) :
    readSet (2 * (cs ++ groupEnd).length + 2) (cs ++ groupEnd) =
      (readSet (2 * cs.length + 2) cs).map fun (s, rest) => (s, rest ++ groupEnd) := by
  have hlen : (cs ++ groupEnd).length = cs.length + 2 := List.length_append
  exact (setsAgree _).set (Nat.le_refl _) (by omega)

end

/-- The inner set, the row that it stands in, the operation and the outer set are a level each. -/
example : (readSet 24 ("a[b]&&c]".toList ++ groupEnd)).map (fun (part, rest) =>
    (part.height, rest)) = some (4, groupEnd) := by
  decide +kernel

end CatalogShell.Regex
