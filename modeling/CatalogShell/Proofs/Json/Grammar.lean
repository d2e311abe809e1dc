import CatalogShell.Proofs.Json.Token
import Mathlib.Data.List.DropRight

/-!
# Texts that the reader reads

`Json.Spells d cs` is the grammar of JSON texts for drafts that have all their values: `cs` is a way
to write `d`, with spaces or line breaks before items, before and behind the colon of a member, and
before a closing bracket. The reader reads each of these texts as the draft that it spells, and leaves
what follows (`Json.readsAll`, `Json.read_of_spells`).
-/

namespace CatalogShell.Json

open Text (digit?)

/-! ## The grammar -/

/-- Characters that may stand between tokens. -/
def Gap (cs : List Char) : Prop := ∀ c ∈ cs, isSpace c = true

mutual

/-- A text of a draft, from its first character to its last. -/
inductive Spells : Draft → List Char → Prop where
  | null : Spells .null ['n', 'u', 'l', 'l']
  | bool (b : Bool) : Spells (.bool b) (boolChars b)
  | int {n : Int} (h : InRange n) : Spells (.number (some (.int n))) (intChars n)
  | str (s : String) : Spells (.str (some s)) (quoteChars s)
  | noItems : Spells (.arr []) ['[', ']']
  | arr {items : List Draft} {cs gap : List Char} (h : SpellsItems items cs) (hgap : Gap gap) :
    Spells (.arr items) ('[' :: (cs ++ gap ++ [']']))
  | noMembers : Spells (.obj []) ['{', '}']
  | obj {members : List (Option String × Draft)} {cs gap : List Char}
    (h : SpellsMembers members cs) (hgap : Gap gap) :
    Spells (.obj members) ('{' :: (cs ++ gap ++ ['}']))

/-- A text of items, with commas between them. -/
inductive SpellsItems : List Draft → List Char → Prop where
  | one {d : Draft} {gap cs : List Char} (hgap : Gap gap) (h : Spells d cs) :
    SpellsItems [d] (gap ++ cs)
  | more {d : Draft} {ds : List Draft} {gap cs cs' : List Char} (hgap : Gap gap) (h : Spells d cs)
    (hrest : SpellsItems ds cs') : SpellsItems (d :: ds) (gap ++ (cs ++ ',' :: cs'))

/-- A text of members, with commas between them. -/
inductive SpellsMembers : List (Option String × Draft) → List Char → Prop where
  | one {key : String} {d : Draft} {gap gap' cs : List Char} (hgap : Gap gap) (hgap' : Gap gap')
    (h : Spells d cs) :
    SpellsMembers [(some key, d)] (gap ++ (quoteChars key ++ ':' :: (gap' ++ cs)))
  | more {key : String} {d : Draft} {ds : List (Option String × Draft)}
    {gap gap' cs cs' : List Char} (hgap : Gap gap) (hgap' : Gap gap') (h : Spells d cs)
    (hrest : SpellsMembers ds cs') :
    SpellsMembers ((some key, d) :: ds)
      (gap ++ (quoteChars key ++ ':' :: (gap' ++ (cs ++ ',' :: cs'))))

end

/-! ## Between tokens -/

theorem skipSpace_append {gap : List Char} (h : Gap gap) (cs : List Char) :
    skipSpace (gap ++ cs) = skipSpace cs := by
  induction gap with
  | nil => rfl
  | cons c gap ih =>
    rw [Gap, List.forall_mem_cons] at h
    rw [List.cons_append, skipSpace, List.dropWhile_cons_of_pos h.1]
    exact ih h.2

theorem skipSpace_cons_of_not {c : Char} {cs : List Char} (h : isSpace c = false) :
    skipSpace (c :: cs) = c :: cs := by
  rw [skipSpace, List.dropWhile_cons_of_neg (by simp [h])]

theorem skipSpace_skipSpace (cs : List Char) : skipSpace (skipSpace cs) = skipSpace cs :=
  List.dropWhile_idempotent isSpace cs

theorem readValue_skipSpace (fuel : Nat) (cs : List Char) :
    readValue fuel (skipSpace cs) = readValue fuel cs := by
  cases fuel with
  | zero => rfl
  | succ fuel => simp only [readValue, skipSpace_skipSpace]

theorem readItems_skipSpace (fuel : Nat) (cs : List Char) :
    readItems fuel (skipSpace cs) = readItems fuel cs := by
  cases fuel with
  | zero => rfl
  | succ fuel => simp only [readItems, readValue_skipSpace]

theorem readMembers_skipSpace (fuel : Nat) (cs : List Char) :
    readMembers fuel (skipSpace cs) = readMembers fuel cs := by
  cases fuel with
  | zero => rfl
  | succ fuel => simp only [readMembers, skipSpace_skipSpace]

/-- A gap in front of a value is skipped. -/
theorem readValue_gap {gap : List Char} (h : Gap gap) (fuel : Nat) (cs : List Char) :
    readValue fuel (gap ++ cs) = readValue fuel cs := by
  rw [← readValue_skipSpace, skipSpace_append h, readValue_skipSpace]

theorem ends_cons {c : Char} (h : digit? c = none ∧ c ≠ '.' ∧ c ≠ 'e' ∧ c ≠ 'E')
    (cs : List Char) : Ends (c :: cs) := by
  rintro _ ⟨⟩
  exact h

/-- A number ends before a gap. -/
theorem Gap.ends {gap rest : List Char} (h : Gap gap) (hrest : Ends rest) : Ends (gap ++ rest) := by
  cases gap with
  | nil => exact hrest
  | cons c gap =>
    have hc := h c List.mem_cons_self
    simp only [isSpace, Bool.or_eq_true, decide_eq_true_eq] at hc
    obtain ((rfl | rfl) | rfl) | rfl := hc <;> exact ends_cons (by decide) _

/-! ## One step of the reader -/

variable {fuel : Nat} {cs rest rest' : List Char}

theorem readValue_digit {c : Char} (h : c.isDigit = true) :
    readValue (fuel + 1) (c :: cs) = readNumeral false (c :: cs) := by
  unfold readValue
  rw [skipSpace_cons_of_not (isSpace_of_isDigit h)]
  split
  case h_8 => rfl
  all_goals exact absurd (List.cons.inj ‹_›).1 (ne_of_isDigit h rfl)

theorem readValue_intChars {n : Int} (h : InRange n) (hrest : Ends rest) :
    readValue (fuel + 1) (intChars n ++ rest) = some (.number (some (.int n)), rest) := by
  obtain ⟨hlow, hhigh⟩ := h
  unfold intChars
  split
  · next hneg =>
    have hread : readValue (fuel + 1) ('-' :: (n.natAbs.repr.toList ++ rest)) =
        readNumeral true (n.natAbs.repr.toList ++ rest) := rfl
    have hvalue : -(n.natAbs : Int) = n := by omega
    rw [List.cons_append, hread, Nat.toList_repr, readNumeral_toDigits _ _ hrest,
      number?_negative (by omega) (by omega), hvalue]
  · next hneg =>
    have hvalue : (n.natAbs : Int) = n := by omega
    obtain ⟨d, ds, hdigits, hd⟩ := exists_toDigits n.natAbs
    have hread : readValue (fuel + 1) (Nat.toDigits 10 n.natAbs ++ rest) =
        readNumeral false (Nat.toDigits 10 n.natAbs ++ rest) := by
      rw [hdigits]
      exact readValue_digit hd
    rw [Nat.toList_repr, hread, readNumeral_toDigits _ _ hrest, number?_natural (by omega), hvalue]

theorem readValue_quoteChars (s : String) :
    readValue (fuel + 1) (quoteChars s ++ rest) = some (.str (some s), rest) := by
  have hread (cs : List Char) : readValue (fuel + 1) ('"' :: cs) =
      (readString cs).map fun r => (.str r.1, r.2) := rfl
  rw [quoteChars, List.cons_append, List.append_assoc, List.singleton_append, hread,
    readString_escaped]
  rfl

theorem readValue_arr {items : List Draft} (hopen : (skipSpace cs).head? ≠ some ']')
    (h : readItems fuel cs = some (items, rest)) :
    readValue (fuel + 1) ('[' :: cs) = some (.arr items, rest) := by
  have hspace : skipSpace ('[' :: cs) = '[' :: cs := skipSpace_cons_of_not (by decide)
  simp only [readValue, hspace]
  split
  · next hclose =>
    rw [hclose] at hopen
    exact absurd rfl hopen
  · rw [readItems_skipSpace, h]
    rfl

theorem readValue_obj {members : List (Option String × Draft)}
    (hopen : (skipSpace cs).head? ≠ some '}')
    (h : readMembers fuel cs = some (members, rest)) :
    readValue (fuel + 1) ('{' :: cs) = some (.obj members, rest) := by
  have hspace : skipSpace ('{' :: cs) = '{' :: cs := skipSpace_cons_of_not (by decide)
  simp only [readValue, hspace]
  split
  · next hclose =>
    rw [hclose] at hopen
    exact absurd rfl hopen
  · rw [readMembers_skipSpace, h]
    rfl

theorem readItems_one {d : Draft} (h : readValue fuel cs = some (d, rest))
    (hclose : skipSpace rest = ']' :: rest') : readItems (fuel + 1) cs = some ([d], rest') := by
  simp only [readItems, h, hclose]

theorem readItems_more {d : Draft} {ds : List Draft}
    (h : readValue fuel cs = some (d, ',' :: rest))
    (hrest : readItems fuel rest = some (ds, rest')) :
    readItems (fuel + 1) cs = some (d :: ds, rest') := by
  have hcomma : skipSpace (',' :: rest) = ',' :: rest := skipSpace_cons_of_not (by decide)
  simp only [readItems, h, hcomma, hrest, Option.map_some]

variable {gap : List Char} {key : String} {d : Draft}

theorem skipSpace_quoteChars (hgap : Gap gap) (key : String) (cs : List Char) :
    skipSpace (gap ++ (quoteChars key ++ cs)) =
      '"' :: (key.toList.flatMap escapeChar ++ '"' :: cs) := by
  rw [skipSpace_append hgap, quoteChars, List.cons_append, List.append_assoc,
    List.singleton_append, skipSpace_cons_of_not (by decide)]

theorem readMembers_one (hgap : Gap gap) (h : readValue fuel cs = some (d, rest))
    (hclose : skipSpace rest = '}' :: rest') :
    readMembers (fuel + 1) (gap ++ (quoteChars key ++ ':' :: cs)) =
      some ([(some key, d)], rest') := by
  have hcolon : skipSpace (':' :: cs) = ':' :: cs := skipSpace_cons_of_not (by decide)
  simp only [readMembers, skipSpace_quoteChars hgap, readString_escaped, hcolon, h, hclose]

theorem readMembers_more {ds : List (Option String × Draft)} (hgap : Gap gap)
    (h : readValue fuel cs = some (d, ',' :: rest))
    (hrest : readMembers fuel rest = some (ds, rest')) :
    readMembers (fuel + 1) (gap ++ (quoteChars key ++ ':' :: cs)) =
      some ((some key, d) :: ds, rest') := by
  have hcolon : skipSpace (':' :: cs) = ':' :: cs := skipSpace_cons_of_not (by decide)
  have hcomma : skipSpace (',' :: rest) = ',' :: rest := skipSpace_cons_of_not (by decide)
  simp only [readMembers, skipSpace_quoteChars hgap, readString_escaped, hcolon, h, hcomma, hrest, Option.map_some]

/-! ## All texts of the grammar -/

/-- Behind its brackets, a value is told from a closing bracket by its first character. -/
theorem Spells.head (h : Spells d cs) (rest : List Char) :
    skipSpace (cs ++ rest) = cs ++ rest ∧ (cs ++ rest).head? ≠ some ']' := by
  have hcons {c : Char} {tail : List Char} (hspace : isSpace c = false) (hc : c ≠ ']') :
      skipSpace (c :: tail) = c :: tail ∧ (c :: tail).head? ≠ some ']' :=
    ⟨skipSpace_cons_of_not hspace, by simpa using hc⟩
  cases h with
  | null | str | noItems | arr | noMembers | obj => exact hcons (by decide) (by decide)
  | bool b => cases b <;> exact hcons (by decide) (by decide)
  | @int n =>
    unfold intChars
    split
    · exact hcons (by decide) (by decide)
    · obtain ⟨d, ds, hdigits, hd⟩ := exists_toDigits n.natAbs
      rw [Nat.toList_repr, hdigits]
      exact hcons (isSpace_of_isDigit hd) (ne_of_isDigit hd rfl)

theorem Spells.length_pos (h : Spells d cs) : 0 < cs.length := by
  cases h with
  | null | str | noItems | arr | noMembers | obj => exact Nat.succ_pos _
  | bool b => cases b <;> exact Nat.succ_pos _
  | @int n =>
    unfold intChars
    split
    · exact Nat.succ_pos _
    · rw [Nat.toList_repr]
      exact Nat.length_toDigits_pos

theorem SpellsItems.head {ds : List Draft} (h : SpellsItems ds cs) (rest : List Char) :
    (skipSpace (cs ++ rest)).head? ≠ some ']' := by
  cases h with
  | one hgap h => 
    rw [List.append_assoc, skipSpace_append hgap, (h.head _).1]
    exact (h.head _).2
  | more hgap h hrest => 
    rw [List.append_assoc, List.append_assoc, skipSpace_append hgap, (h.head _).1]
    exact (h.head _).2

theorem SpellsMembers.head {ds : List (Option String × Draft)} (h : SpellsMembers ds cs)
    (rest : List Char) : (skipSpace (cs ++ rest)).head? ≠ some '}' := by
  cases h with
  | one hgap | more hgap =>
    rw [List.append_assoc, List.append_assoc, skipSpace_quoteChars hgap]
    simp

/-- With this fuel, the reader reads every text of the grammar that is short enough, up to where it
ends. -/
structure ReadsAll (fuel : Nat) : Prop where
  value : ∀ {d cs rest}, Spells d cs → cs.length ≤ fuel → Ends rest →
    readValue fuel (cs ++ rest) = some (d, rest)
  items : ∀ {ds cs gap rest}, SpellsItems ds cs → Gap gap → cs.length < fuel →
    readItems fuel (cs ++ (gap ++ ']' :: rest)) = some (ds, rest)
  members : ∀ {ds cs gap rest}, SpellsMembers ds cs → Gap gap → cs.length < fuel →
    readMembers fuel (cs ++ (gap ++ '}' :: rest)) = some (ds, rest)

theorem ReadsAll.value_succ (h : ReadsAll fuel) (hspells : Spells d cs)
    (hfuel : cs.length ≤ fuel + 1) (hrest : Ends rest) :
    readValue (fuel + 1) (cs ++ rest) = some (d, rest) := by
  cases hspells with
  | null | noItems | noMembers => rfl
  | bool b => cases b <;> rfl
  | int hn => exact readValue_intChars hn hrest
  | str s => exact readValue_quoteChars s
  | arr hitems hgap =>
    simp only [List.length_cons, List.length_append, List.length_nil] at hfuel
    simp only [List.cons_append, List.append_assoc, List.nil_append]
    exact readValue_arr (hitems.head _) (h.items hitems hgap (by omega))
  | obj hmembers hgap =>
    simp only [List.length_cons, List.length_append, List.length_nil] at hfuel
    simp only [List.cons_append, List.append_assoc, List.nil_append]
    exact readValue_obj (hmembers.head _) (h.members hmembers hgap (by omega))

/-- A value in front of a closing bracket, and perhaps a gap. -/
theorem ReadsAll.value_close (h : ReadsAll fuel) {gap' : List Char} (hgap : Gap gap)
    (hgap' : Gap gap') (hspells : Spells d cs) (hfuel : cs.length ≤ fuel) {close : Char}
    (hclose : close = ']' ∨ close = '}') :
    readValue fuel (gap ++ (cs ++ (gap' ++ close :: rest))) = some (d, gap' ++ close :: rest) ∧
      skipSpace (gap' ++ close :: rest) = close :: rest := by
  rw [readValue_gap hgap, skipSpace_append hgap']
  obtain rfl | rfl := hclose
  · exact ⟨h.value hspells hfuel (hgap'.ends (ends_cons (by decide) rest)),
      skipSpace_cons_of_not (by decide)⟩
  · exact ⟨h.value hspells hfuel (hgap'.ends (ends_cons (by decide) rest)),
      skipSpace_cons_of_not (by decide)⟩

/-- A value in front of a comma. -/
theorem ReadsAll.value_comma (h : ReadsAll fuel) (hgap : Gap gap) (hspells : Spells d cs)
    (hfuel : cs.length ≤ fuel) :
    readValue fuel (gap ++ (cs ++ ',' :: rest)) = some (d, ',' :: rest) := by
  rw [readValue_gap hgap]
  exact h.value hspells hfuel (ends_cons (by decide) rest)

theorem ReadsAll.items_succ (h : ReadsAll fuel) {ds : List Draft} (hspells : SpellsItems ds cs)
    (hgap : Gap gap) (hfuel : cs.length < fuel + 1) :
    readItems (fuel + 1) (cs ++ (gap ++ ']' :: rest)) = some (ds, rest) := by
  cases hspells with
  | one hgap' hd =>
    rw [List.length_append] at hfuel
    obtain ⟨hvalue, hclose⟩ := h.value_close hgap' hgap hd (by omega) (.inl rfl)
    rw [List.append_assoc]
    exact readItems_one hvalue hclose
  | more hgap' hd hitems =>
    simp only [List.length_append, List.length_cons] at hfuel
    simp only [List.append_assoc, List.cons_append]
    exact readItems_more (h.value_comma hgap' hd (by omega)) (h.items hitems hgap (by omega))

theorem ReadsAll.members_succ (h : ReadsAll fuel) {ds : List (Option String × Draft)}
    (hspells : SpellsMembers ds cs) (hgap : Gap gap) (hfuel : cs.length < fuel + 1) :
    readMembers (fuel + 1) (cs ++ (gap ++ '}' :: rest)) = some (ds, rest) := by
  cases hspells with
  | one hkey hgap' hd =>
    simp only [List.length_append, List.length_cons] at hfuel
    obtain ⟨hvalue, hclose⟩ := h.value_close hgap' hgap hd (by omega) (.inr rfl)
    simp only [List.append_assoc, List.cons_append]
    exact readMembers_one hkey hvalue hclose
  | more hkey hgap' hd hmembers =>
    simp only [List.length_append, List.length_cons] at hfuel
    simp only [List.append_assoc, List.cons_append]
    exact readMembers_more hkey (h.value_comma hgap' hd (by omega))
      (h.members hmembers hgap (by omega))

/-- Each value and each item takes one unit of fuel, and at least one character. -/
theorem readsAll (fuel : Nat) : ReadsAll fuel := by
  induction fuel with
  | zero =>
    refine ⟨fun h hfuel => ?_, fun _ _ hfuel => absurd hfuel (by omega),
      fun _ _ hfuel => absurd hfuel (by omega)⟩
    have hpos := h.length_pos
    omega
  | succ fuel ih => exact ⟨ih.value_succ, ih.items_succ, ih.members_succ⟩

/-- A text of the grammar is read as the draft that it spells. -/
theorem read_of_spells {s : String} (h : Spells d s.toList) : read s = some d := by
  have hread := (readsAll (2 * s.toList.length + 2)).value h (by omega) ends_nil
  rw [List.append_nil] at hread
  unfold read
  simp only [hread, Option.bind_eq_bind, Option.bind_some]
  rfl

end CatalogShell.Json
