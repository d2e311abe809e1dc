import CatalogShell.Query

/-!
# Placeholders in the text of a statement

`Mentions sql k before after` finds `$k` in a text without regard to how the text was made. If
no text fragment of a statement has a dollar sign and no placeholder runs into a digit, then
the places found are just the placeholders among its fragments (`mentions_render_iff`).
-/

namespace CatalogShell

/-- `$k` stands in a text between `before` and `after`: a dollar sign and all the digits that
follow it, which spell `k`. -/
def Mentions (sql : List Char) (k : Nat) (before after : List Char) : Prop :=
  ∃ digits, sql = before ++ '$' :: (digits ++ after) ∧ digits ≠ [] ∧
    (∀ d ∈ digits, d.isDigit = true) ∧ (∀ c ∈ after.head?, c.isDigit = false) ∧
    Nat.ofDigitChars 10 digits 0 = k

/-- The text of fragments. -/
def render (fs : List Fragment) : List Char := fs.flatMap fun f => f.sql.toList

theorem Query.toList_sql (q : Query) : q.sql.toList = render q.fragments := by
  simp [Query.sql, render, List.flatMap_map]

@[simp] theorem render_nil : render [] = [] := rfl

@[simp] theorem render_cons (f : Fragment) (fs : List Fragment) :
    render (f :: fs) = f.sql.toList ++ render fs := rfl

@[simp] theorem render_append (fs fs' : List Fragment) :
    render (fs ++ fs') = render fs ++ render fs' := List.flatMap_append

theorem toList_slot (p : Placeholder) :
    (Fragment.slot p).sql.toList = '$' :: Nat.toDigits 10 p.number := by
  simp [Fragment.sql, Placeholder.text]

/-- A dollar sign that does not stand in the first part stands in the second. -/
theorem exists_of_append_eq {xs ys before rest : List Char} (hx : '$' ∉ xs)
    (h : xs ++ ys = before ++ '$' :: rest) :
    ∃ before', before = xs ++ before' ∧ ys = before' ++ '$' :: rest := by
  obtain ⟨before', hb, hy⟩ | ⟨zs, hxs, hz⟩ := List.append_eq_append_iff.1 h
  · exact ⟨before', hb, hy⟩
  · cases zs with
    | nil => exact ⟨[], by simpa using hxs.symm, by simpa using hz.symm⟩
    | cons z zs =>
      obtain ⟨rfl, -⟩ := List.cons.inj hz
      simp [hxs] at hx

/-- The digits at the start of a text are told by where they end. -/
theorem digits_append_inj {ds es xs ys : List Char} (hd : ∀ d ∈ ds, d.isDigit = true)
    (he : ∀ e ∈ es, e.isDigit = true) (hx : ∀ c ∈ xs.head?, c.isDigit = false)
    (hy : ∀ c ∈ ys.head?, c.isDigit = false) (h : ds ++ xs = es ++ ys) : ds = es ∧ xs = ys := by
  induction ds generalizing es with
  | nil =>
    cases es with
    | nil => exact ⟨rfl, h⟩
    | cons e es =>
      obtain rfl : xs = e :: (es ++ ys) := h
      have := hx e rfl
      simp [he e] at this
  | cons d ds ih =>
    cases es with
    | nil =>
      obtain rfl : d :: (ds ++ xs) = ys := h
      have := hy d rfl
      simp [hd d] at this
    | cons e es =>
      rw [List.forall_mem_cons] at hd he
      obtain ⟨rfl, htail⟩ := List.cons.inj h
      obtain ⟨rfl, hrest⟩ := ih hd.2 he.2 htail
      exact ⟨rfl, hrest⟩

theorem isDigit_of_mem_toDigits {n : Nat} : ∀ d ∈ Nat.toDigits 10 n, d.isDigit = true :=
  fun _ => Nat.isDigit_of_mem_toDigits (by decide) (by decide)

theorem dollar_notMem_toDigits (n : Nat) : '$' ∉ Nat.toDigits 10 n :=
  fun h => absurd (isDigit_of_mem_toDigits _ h) (by decide)

/-- The placeholders that stand in the text of fragments are those among the fragments. -/
theorem mentions_render_iff {fs : List Fragment} {k : Nat} {before after : List Char}
    (htexts : ∀ s, .text s ∈ fs → '$' ∉ s.toList)
    (hnext : ∀ l p r, fs = l ++ .slot p :: r → ∀ c ∈ (render r).head?, c.isDigit = false) :
    Mentions (render fs) k before after ↔
      ∃ l r, fs = l ++ .slot ⟨k⟩ :: r ∧ before = render l ∧ after = render r := by
  constructor
  · rintro ⟨digits, htext, hne, hdigits, hafter, rfl⟩
    induction fs generalizing before with
    | nil => simp at htext
    | cons f fs ih =>
      have ih {b : List Char} (h : render fs = b ++ '$' :: (digits ++ after)) :
          ∃ l r, f :: fs = l ++ .slot ⟨Nat.ofDigitChars 10 digits 0⟩ :: r ∧
            f.sql.toList ++ b = render l ∧ after = render r := by
        obtain ⟨l, r, rfl, rfl, rfl⟩ := ih (fun s hs => htexts s (List.mem_cons_of_mem _ hs))
          (fun l p r hfs => hnext (f :: l) p r (by rw [hfs]; rfl)) h
        exact ⟨f :: l, r, rfl, rfl, rfl⟩
      rw [render_cons] at htext
      cases f with
      | text s =>
        obtain ⟨b, rfl, hrest⟩ := exists_of_append_eq (htexts s List.mem_cons_self) htext
        exact ih hrest
      | slot p =>
        rw [toList_slot] at htext ih
        cases before with
        | nil =>
          obtain ⟨rfl, rfl⟩ := digits_append_inj isDigit_of_mem_toDigits hdigits
            (hnext [] p fs rfl) hafter (List.cons.inj htext).2
          rw [Nat.ofDigitChars_ten_toDigits]
          exact ⟨[], fs, rfl, rfl, rfl⟩
        | cons c before =>
          obtain ⟨rfl, htail⟩ := List.cons.inj htext
          obtain ⟨b, rfl, hrest⟩ := exists_of_append_eq (dollar_notMem_toDigits _) htail
          exact ih hrest
  · rintro ⟨l, r, rfl, rfl, rfl⟩
    refine ⟨Nat.toDigits 10 k, ?_, Nat.toDigits_ne_nil, isDigit_of_mem_toDigits,
      hnext l ⟨k⟩ r rfl, Nat.ofDigitChars_ten_toDigits⟩
    rw [render_append, render_cons, toList_slot]
    rfl

end CatalogShell
