import CatalogShell.Listing.Filter

/-!
# Queries that differ in bound values only

`Query.SameText` relates queries that differ at most in what is bound to their placeholders. The
filters of patterns keep it, if the patterns agree on which filters they have
(`Pattern.SameFilters`).
-/

namespace CatalogShell

/-- Two patterns agree on which of the filters they have. -/
structure Pattern.SameFilters (p p' : Pattern) : Prop where
  schema : p.schemaFilter?.isSome = p'.schemaFilter?.isSome
  name : p.nameFilter?.isSome = p'.nameFilter?.isSome

theorem Pattern.isSome_filterOf (body : List Char) :
    (Pattern.filterOf body).isSome = !body.isEmpty := by
  rw [Pattern.filterOf]
  cases body <;> rfl

theorem Pattern.SameFilters.isUnfiltered {p p' : Pattern} (h : p.SameFilters p') :
    p.isUnfiltered = p'.isUnfiltered := by
  have hschema := h.schema
  have hname := h.name
  simp only [Pattern.schemaFilter?, Pattern.nameFilter?, Pattern.isSome_filterOf,
    Bool.not_inj_iff] at hschema hname
  rw [Pattern.isUnfiltered, Pattern.isUnfiltered, hschema, hname]

theorem none_or_some_of_isSome_eq {α : Type} {a b : Option α} (h : a.isSome = b.isSome) :
    (a = none ∧ b = none) ∨ ∃ x y, a = some x ∧ b = some y := by
  cases a with
  | none => exact .inl ⟨rfl, Option.not_isSome_iff_eq_none.1 (by simp [← h])⟩
  | some x =>
    obtain ⟨y, rfl⟩ := Option.isSome_iff_exists.1 h.symm
    exact .inr ⟨x, y, rfl, rfl⟩

/-- The queries differ at most in the values that are bound. -/
structure Query.SameText (q q' : Query) : Prop where
  fragments : q.fragments = q'.fragments
  arity : q.params.length = q'.params.length

namespace Query.SameText

variable {q q' : Query} {p p' : Pattern}

theorem refl (q : Query) : SameText q q := ⟨rfl, rfl⟩

theorem sql (h : SameText q q') : q.sql = q'.sql := by
  rw [Query.sql, Query.sql, h.fragments]

theorem next (h : SameText q q') : q.next = q'.next := by
  rw [Query.next, Query.next, h.arity]

theorem append (h : SameText q q') (fragments : List Fragment) :
    SameText (q.append fragments) (q'.append fragments) :=
  ⟨congrArg (· ++ fragments) h.fragments, h.arity⟩

theorem push (h : SameText q q') (s : String) : SameText (q.push s) (q'.push s) :=
  h.append [.text s]

theorem pushIf (h : SameText q q') {condition condition' : Bool} (hc : condition = condition')
    (s : String) : SameText (q.pushIf condition s) (q'.pushIf condition' s) := by
  subst hc
  cases condition with
  | false => exact h
  | true => exact h.push s

theorem hold (h : SameText q q') (v v' : Value) : SameText (q.hold v).2 (q'.hold v').2 :=
  ⟨h.fragments, by simp [Query.hold, h.arity]⟩

/-- A value whose placeholder stands in the fragments that are added with it. -/
theorem holdAppend (h : SameText q q') (v v' : Value) (fragments : Placeholder → List Fragment) :
    SameText ((q.hold v).2.append (fragments (q.hold v).1))
      ((q'.hold v').2.append (fragments (q'.hold v').1)) := by
  rw [show (q.hold v).1 = (q'.hold v').1 from h.next]
  exact (h.hold v v').append _

theorem bind (h : SameText q q') (lead : String) (v v' : Value) :
    SameText (q.bind lead v) (q'.bind lead v') :=
  h.holdAppend v v' fun p => [.text lead, .slot p]

/-- What is added only for a pattern with a name filter. -/
theorem ofName {restricted restricted' : String → Query} (h : SameText q q')
    (hp : p.SameFilters p')
    (hname : ∀ filter filter', SameText q q' →
      SameText (restricted filter) (restricted' filter')) :
    SameText
      (match p.nameFilter? with
        | some filter => restricted filter
        | none => q)
      (match p'.nameFilter? with
        | some filter => restricted' filter
        | none => q') := by
  obtain ⟨hn, hn'⟩ | ⟨filter, filter', hn, hn'⟩ := none_or_some_of_isSome_eq hp.name
  · rw [hn, hn']
    exact h
  · rw [hn, hn']
    exact hname filter filter' h

theorem named (h : SameText q q') (hp : p.SameFilters p') (column : String) :
    SameText (q.named p column) (q'.named p' column) :=
  h.ofName hp fun _ _ h => h.bind _ _ _

theorem inSchema (h : SameText q q') (hp : p.SameFilters p') (column otherwise : String) :
    SameText (q.inSchema p column otherwise) (q'.inSchema p' column otherwise) := by
  rw [Query.inSchema, Query.inSchema]
  obtain ⟨hs, hs'⟩ | ⟨filter, filter', hs, hs'⟩ := none_or_some_of_isSome_eq hp.schema
  · rw [hs, hs']
    exact h.push otherwise
  · rw [hs, hs']
    exact h.bind _ _ _

theorem inScope (h : SameText q q') (hp : p.SameFilters p') (column visible : String) :
    SameText (q.inScope p column visible) (q'.inScope p' column visible) :=
  (h.inSchema hp column _).pushIf hp.isUnfiltered _

end Query.SameText

end CatalogShell
