import CatalogShell.Listing.Filter
import CatalogShell.Proofs.Query.Build
import CatalogShell.Proofs.Query.Mention
import Mathlib.Data.List.Chain

/-!
# What the placeholders of a listing are compared with

Each value bound in a listing has a `Role`. `Query.Binds columns bound q` says that the values of
`q` are those of `bound`, that its text has a placeholder for each of them, and that each
placeholder is compared with a column of its role and with nothing else (`Compared`). It is kept
by the steps that build a listing, and `Binds.mentions` reads it off the finished text.
-/

namespace CatalogShell

/-- What a bound value restricts. -/
inductive Role where
  | kinds
  | schema
  | name
deriving DecidableEq

/-- What stands between a column and the placeholder it is compared with. -/
def Role.comparison : Role → String
  | .kinds => " = ANY("
  | .schema => " OPERATOR(pg_catalog.~) "
  | .name => " OPERATOR(pg_catalog.~) "

/-- What may stand before a condition. -/
def openings : List String := [" AND ", " OR ", " WHERE ", "("]

/-- What may stand after a placeholder. -/
def closings : List String := [" AND ", " OR ", " ORDER BY ", " COLLATE ", ")"]

/-- A text ends with the left side of a condition on a column. -/
def Leads (columns : Role → List String) (role : Role) (before : List Char) : Prop :=
  ∃ o ∈ openings, ∃ column ∈ columns role, (o ++ column ++ role.comparison).toList <:+ before

/-- A text does not go on with the right side of a condition. -/
def Closes (after : List Char) : Prop := ∃ c ∈ closings, c.toList <+: after

/-- The placeholder between two texts is all of what a column of its role is compared with. -/
def Compared (columns : Role → List String) (role : Role) (before after : List Char) : Prop :=
  Leads columns role before ∧ (after = [] ∨ Closes after)

/-- Which fragments may follow each other. -/
def Follows (columns : Role → List String) (bound : List (Role × Value)) :
    Fragment → Fragment → Prop
  | .text _, .text _ => True
  | .text s, .slot p => 0 < p.number ∧
    ∃ role v, bound[p.number - 1]? = some (role, v) ∧ Leads columns role s.toList
  | .slot _, .text s => Closes s.toList
  | .slot _, .slot _ => False

/-- The query binds just these values, and compares each with the columns of its role. -/
structure Query.Binds (columns : Role → List String) (bound : List (Role × Value)) (q : Query) :
    Prop where
  params : q.params = bound.map Prod.snd
  texts : ∀ s, .text s ∈ q.fragments → '$' ∉ s.toList
  slots : ∀ k, 0 < k → k ≤ bound.length → .slot ⟨k⟩ ∈ q.fragments
  /-- The fragments follow each other, as if a text stood before them. -/
  chain : (.text "" :: q.fragments).IsChain (Follows columns bound)

/-- The value of a pattern's schema filter, if it has one. -/
def Pattern.schemaBound (p : Pattern) : List (Role × Value) :=
  p.schemaFilter?.toList.map fun filter => (.schema, .text filter)

/-- The value of a pattern's name filter, if it has one. -/
def Pattern.nameBound (p : Pattern) : List (Role × Value) :=
  p.nameFilter?.toList.map fun filter => (.name, .text filter)

variable {columns : Role → List String} {bound more : List (Role × Value)} {role : Role}
  {before after : List Char} {s : String} {q q' : Query}

theorem Leads.mono {before' : List Char} (h : Leads columns role before)
    (hsuffix : before <:+ before') : Leads columns role before' := by
  obtain ⟨o, ho, column, hcolumn, hlead⟩ := h
  exact ⟨o, ho, column, hcolumn, hlead.trans hsuffix⟩

theorem Closes.mono {after' : List Char} (h : Closes after) (hbefore : after <+: after') :
    Closes after' := by
  obtain ⟨c, hc, hclose⟩ := h
  exact ⟨c, hc, hclose.trans hbefore⟩

theorem Closes.head_not_digit (h : Closes after) : ∀ c ∈ after.head?, c.isDigit = false := by
  obtain ⟨c, hc, rest, rfl⟩ := h
  have hall : ∀ c ∈ closings, c.toList.head?.map Char.isDigit = some false := by decide
  have hhead := hall c hc
  cases hcs : c.toList with
  | nil => simp [hcs] at hhead
  | cons d ds => simpa [hcs] using hhead

/-- The left side of a condition at the end of texts that are written out. -/
theorem leads_ofList {os cs cmp ds : List Char} (ho : String.ofList os ∈ openings)
    (hcolumn : String.ofList cs ∈ columns role) (hcmp : role.comparison = String.ofList cmp)
    (h : os ++ cs ++ cmp <:+ ds) : Leads columns role (String.ofList ds).toList :=
  ⟨_, ho, _, hcolumn, by simpa [hcmp] using h⟩

theorem leads_append_ofList {os cs cmp ds es : List Char} (ho : String.ofList os ∈ openings)
    (hcolumn : String.ofList cs ∈ columns role) (hcmp : role.comparison = String.ofList cmp)
    (h : os ++ cs ++ cmp <:+ ds ++ es) :
    Leads columns role (String.ofList ds ++ String.ofList es).toList := by
  rw [← String.ofList_append]
  exact leads_ofList ho hcolumn hcmp h

instance : Decidable (Closes after) :=
  inferInstanceAs (Decidable (∃ c ∈ closings, c.toList <+: after))

theorem closes_and (s : String) : Closes (" AND " ++ s).toList :=
  ⟨" AND ", by decide, by simp [String.toList_append]⟩

theorem closes_append {s : String} (h : Closes s.toList) (t : String) : Closes (s ++ t).toList :=
  h.mono (by simp [String.toList_append])

/-- A text that is written out is searched as a list of characters. -/
theorem closes_ofList {cs : List Char} (h : Closes cs) : Closes (String.ofList cs).toList := by
  rwa [String.toList_ofList]

theorem dollar_notMem_append {s t : String} :
    '$' ∉ (s ++ t).toList ↔ '$' ∉ s.toList ∧ '$' ∉ t.toList := by
  rw [String.toList_append, List.mem_append, not_or]

theorem dollar_notMem_ite {condition : Bool} {s t : String} (hs : '$' ∉ s.toList)
    (ht : '$' ∉ t.toList) : '$' ∉ (if condition then s else t).toList := by
  split
  · exact hs
  · exact ht

theorem dollar_notMem_ofList {cs : List Char} (h : '$' ∉ cs) : '$' ∉ (String.ofList cs).toList := by
  rwa [String.toList_ofList]

theorem Follows.mono {f f' : Fragment} (h : Follows columns bound f f') :
    Follows columns (bound ++ more) f f' := by
  cases f with
  | slot p => cases f' <;> exact h
  | text s =>
    cases f' with
    | text s' => trivial
    | slot p =>
      obtain ⟨hp, role, v, hget, hlead⟩ := h
      obtain ⟨hlt, -⟩ := List.getElem?_eq_some_iff.1 hget
      exact ⟨hp, role, v, by rw [List.getElem?_append_left hlt, hget], hlead⟩

namespace Query.Binds

/-! ## Placeholders -/

/-- A placeholder among the fragments is compared as its role wants. -/
theorem compared (h : Binds columns bound q) {l r : List Fragment} {p : Placeholder}
    (hq : q.fragments = l ++ .slot p :: r) :
    0 < p.number ∧ ∃ role v, bound[p.number - 1]? = some (role, v) ∧
      Compared columns role (render l) (render r) := by
  have hchain := h.chain
  rw [hq] at hchain
  have hright : (Fragment.slot p :: r).IsChain (Follows columns bound) := by
    rw [← List.cons_append] at hchain
    exact hchain.right_of_append
  have hclose : render r = [] ∨ Closes (render r) := by
    cases r with
    | nil => exact .inl rfl
    | cons f r =>
      cases f with
      | slot p' => exact (List.isChain_cons_cons.1 hright).1.elim
      | text s =>
        exact .inr (Closes.mono (List.isChain_cons_cons.1 hright).1 (List.prefix_append _ _))
  have hleft : ∃ s, Follows columns bound (.text s) (.slot p) ∧ s.toList <:+ render l := by
    obtain rfl | ⟨l, f, rfl⟩ := List.eq_nil_or_concat l
    · exact ⟨"", (List.isChain_cons_cons.1 hchain).1, by simp⟩
    · rw [List.concat_append] at hchain
      have hf := (List.isChain_cons_append_cons_cons.1 hchain).2.1
      cases f with
      | slot p' => exact hf.elim
      | text s => exact ⟨s, hf, by simp [Fragment.sql]⟩
  obtain ⟨s, ⟨hp, role, v, hget, hlead⟩, hsuffix⟩ := hleft
  exact ⟨hp, role, v, hget, hlead.mono hsuffix, hclose⟩

/-! ## Steps -/

theorem nil {label : String} : Binds columns [] { label } where
  params := rfl
  texts := by simp
  slots k h0 h := by simp at h; omega
  chain := .singleton _

/-- The last fragment may be followed by a text, if that closes a placeholder. -/
theorem last_follows (h : Binds columns bound q) (hclose : bound = [] ∨ Closes s.toList) :
    ∀ f ∈ (Fragment.text "" :: q.fragments).getLast?, Follows columns bound f (.text s) := by
  intro f hf
  cases f with
  | text s' => trivial
  | slot p =>
    refine hclose.resolve_left ?_
    rintro rfl
    obtain ⟨l, r, hq⟩ := List.append_of_mem (show Fragment.slot p ∈ q.fragments by
      simpa using List.mem_of_mem_getLast? hf)
    obtain ⟨-, role, v, hget, -⟩ := h.compared hq
    simp at hget

/-- Adding fragments that begin with a text. -/
theorem append {rest : List Fragment} (h : Binds columns bound q)
    (hparams : q'.params = q.params ++ more.map Prod.snd)
    (hfragments : q'.fragments = q.fragments ++ .text s :: rest)
    (htexts : ∀ t, .text t ∈ .text s :: rest → '$' ∉ t.toList)
    (hclose : bound = [] ∨ Closes s.toList)
    (hslots : ∀ k, bound.length < k → k ≤ bound.length + more.length → .slot ⟨k⟩ ∈ rest)
    (hchain : (.text s :: rest).IsChain (Follows columns (bound ++ more))) :
    Binds columns (bound ++ more) q' where
  params := by rw [hparams, h.params, List.map_append]
  texts t ht := by
    rw [hfragments, List.mem_append] at ht
    exact ht.elim (h.texts t) (htexts t)
  slots k h0 hk := by
    rw [hfragments, List.mem_append]
    by_cases hle : k ≤ bound.length
    · exact .inl (h.slots k h0 hle)
    · exact .inr (List.mem_cons_of_mem _ (hslots k (by omega) (by simpa using hk)))
  chain := by
    rw [hfragments, ← List.cons_append, List.isChain_append]
    refine ⟨h.chain.imp fun _ _ => Follows.mono, hchain, ?_⟩
    rintro f hf _ ⟨⟩
    exact (h.last_follows hclose f hf).mono

theorem push (h : Binds columns bound q) (hs : '$' ∉ s.toList)
    (hclose : bound = [] ∨ Closes s.toList) : Binds columns bound (q.push s) := by
  rw [← List.append_nil bound]
  refine h.append (by simp) (q.fragments_push s) (by simpa using hs) hclose ?_ (.singleton _)
  intro k hlt hle
  simp at hle
  omega

theorem pushIf (h : Binds columns bound q) (condition : Bool) (hs : '$' ∉ s.toList)
    (hclose : bound = [] ∨ Closes s.toList) : Binds columns bound (q.pushIf condition s) := by
  cases condition with
  | false => exact h
  | true => exact h.push hs hclose

/-- Text that is written out and may follow a placeholder. -/
theorem pushClosing {cs : List Char} (h : Binds columns bound q) (hs : '$' ∉ cs)
    (hclose : Closes cs) : Binds columns bound (q.push (String.ofList cs)) :=
  h.push (dollar_notMem_ofList hs) (.inr (closes_ofList hclose))

/-- Text before any placeholder. -/
theorem start (h : Binds columns [] q) (hs : '$' ∉ s.toList) : Binds columns [] (q.push s) :=
  h.push hs (.inl rfl)

theorem startIf (h : Binds columns [] q) (condition : Bool) (hs : '$' ∉ s.toList) :
    Binds columns [] (q.pushIf condition s) :=
  h.pushIf condition hs (.inl rfl)

theorem length_params (h : Binds columns bound q) : q.params.length = bound.length := by
  rw [h.params, List.length_map]

/-- The next placeholder may follow a text that leads to it. -/
theorem follows_next (h : Binds columns bound q) (v : Value)
    (hlead : Leads columns role s.toList) :
    Follows columns (bound ++ [(role, v)]) (.text s) (.slot q.next) :=
  ⟨Nat.succ_pos _, role, v, by simp [Query.next, h.length_params], hlead⟩

theorem slot_next (h : Binds columns bound q) {k : Nat} (hlt : bound.length < k)
    (hle : k ≤ bound.length + 1) : Fragment.slot ⟨k⟩ = .slot q.next := by
  rw [Query.next, h.length_params, Nat.le_antisymm hle hlt]

theorem bind {lead : String} (h : Binds columns bound q) (v : Value) (hs : '$' ∉ lead.toList)
    (hclose : bound = [] ∨ Closes lead.toList) (hlead : Leads columns role lead.toList) :
    Binds columns (bound ++ [(role, v)]) (q.bind lead v) := by
  refine h.append (q.params_bind lead v) (q.fragments_bind lead v) (by simpa using hs) hclose
    (fun k hlt hle => ?_) ?_
  · rw [h.slot_next hlt hle]
    exact List.mem_singleton_self _
  · exact .cons_cons (h.follows_next v hlead) (.singleton _)

/-- A value whose placeholder stands twice. -/
theorem bindTwice {a b c : String} (h : Binds columns bound q) (v : Value)
    (hs : '$' ∉ a.toList ∧ '$' ∉ b.toList ∧ '$' ∉ c.toList)
    (hclose : (bound = [] ∨ Closes a.toList) ∧ Closes b.toList ∧ Closes c.toList)
    (hlead : Leads columns role a.toList ∧ Leads columns role b.toList) :
    Binds columns (bound ++ [(role, v)])
      ((q.hold v).2.append [.text a, .slot q.next, .text b, .slot q.next, .text c]) := by
  refine h.append rfl rfl ?_ hclose.1 (fun k hlt hle => ?_) ?_
  · simpa using hs
  · rw [h.slot_next hlt hle]
    exact List.mem_cons_self
  · exact .cons_cons (h.follows_next v hlead.1) (.cons_cons hclose.2.1
      (.cons_cons (h.follows_next v hlead.2) (.cons_cons hclose.2.2 (.singleton _))))

/-! ## Filters -/

variable {column otherwise visible : String} {p : Pattern}

theorem matching (h : Binds columns bound q) (filter : String)
    (hrole : role.comparison = " OPERATOR(pg_catalog.~) ") (hcolumn : column ∈ columns role)
    (hs : '$' ∉ column.toList) :
    Binds columns (bound ++ [(role, .text filter)]) (q.matching column filter) := by
  have hoperator : '$' ∉ " OPERATOR(pg_catalog.~) ".toList := dollar_notMem_ofList (by decide)
  refine h.bind (.text filter) ?_ (.inr ?_) ?_
  · simp only [dollar_notMem_append]
    exact ⟨⟨by decide, hs⟩, hoperator⟩
  · rw [String.append_assoc]
    exact closes_and _
  · exact ⟨" AND ", by decide, column, hcolumn, hrole ▸ List.suffix_rfl⟩

/-- What is added only for a pattern with a name filter. -/
theorem ofName {restricted : String → Query} (h : Binds columns bound q)
    (hname : ∀ filter, Binds columns bound q →
      Binds columns (bound ++ [(.name, .text filter)]) (restricted filter)) :
    Binds columns (bound ++ p.nameBound)
      (match p.nameFilter? with
        | some filter => restricted filter
        | none => q) := by
  rw [Pattern.nameBound]
  cases p.nameFilter? with
  | none => simpa using h
  | some filter => exact hname filter h

theorem named (h : Binds columns bound q) (hcolumn : column ∈ columns .name)
    (hs : '$' ∉ column.toList) : Binds columns (bound ++ p.nameBound) (q.named p column) :=
  h.ofName fun filter h => h.matching filter rfl hcolumn hs

theorem inSchema (h : Binds columns bound q) (hcolumn : column ∈ columns .schema)
    (hs : '$' ∉ column.toList) (ho : '$' ∉ otherwise.toList) (hclose : Closes otherwise.toList) :
    Binds columns (bound ++ p.schemaBound) (q.inSchema p column otherwise) := by
  rw [Query.inSchema, Pattern.schemaBound]
  cases p.schemaFilter? with
  | none => simpa using h.push ho (.inr hclose)
  | some filter => exact h.matching filter rfl hcolumn hs

theorem inScope (h : Binds columns bound q) (hcolumn : column ∈ columns .schema)
    (hs : '$' ∉ column.toList) (hv : '$' ∉ visible.toList) :
    Binds columns (bound ++ p.schemaBound) (q.inScope p column visible) := by
  have hcatalog : '$' ∉ " <> 'pg_catalog' AND ".toList := dollar_notMem_ofList (by decide)
  have hschema : '$' ∉ " <> 'information_schema'".toList := dollar_notMem_ofList (by decide)
  have hvisible : '$' ∉ (" AND " ++ visible).toList := dollar_notMem_append.2 ⟨by decide, hv⟩
  refine (h.inSchema hcolumn hs hvisible (closes_and _)).pushIf _ ?_ (.inr ?_)
  · simp only [dollar_notMem_append]
    exact ⟨⟨⟨⟨by decide, hs⟩, hcatalog⟩, hs⟩, hschema⟩
  · simp only [String.append_assoc]
    exact closes_and _

theorem ofKinds {lead : String} (h : Binds columns bound q) (codes : List Char)
    (hs : '$' ∉ lead.toList) (hclose : bound = [] ∨ Closes lead.toList)
    (hlead : Leads columns .kinds lead.toList) :
    Binds columns (bound ++ [(.kinds, .textArray (codes.map Char.toString))])
      (q.ofKinds lead codes) :=
  (h.bind _ hs hclose hlead).push (by decide) (.inr (by decide))

/-! ## The finished text -/

/-- The text has placeholders for just the bound values, and each is compared as its role wants. -/
theorem mentions (h : Binds columns bound q) :
    (∀ k, (∃ before after, Mentions q.sql.toList k before after) ↔ 0 < k ∧ k ≤ q.params.length) ∧
    ∀ k before after, Mentions q.sql.toList k before after →
      ∃ role v, bound[k - 1]? = some (role, v) ∧ Compared columns role before after := by
  have hnext : ∀ l p r, q.fragments = l ++ .slot p :: r →
      ∀ c ∈ (render r).head?, c.isDigit = false := by
    intro l p r hq
    obtain ⟨-, -, -, -, -, hclose⟩ := h.compared hq
    obtain hnil | hclose := hclose
    · simp [hnil]
    · exact hclose.head_not_digit
  have hslot {k before after} := @mentions_render_iff _ k before after h.texts hnext
  rw [Query.toList_sql, h.length_params]
  refine ⟨fun k => ⟨?_, ?_⟩, ?_⟩
  · rintro ⟨before, after, hk⟩
    obtain ⟨l, r, hq, -⟩ := hslot.1 hk
    obtain ⟨hpos, role, v, hget, -⟩ := h.compared hq
    obtain ⟨hlt, -⟩ := List.getElem?_eq_some_iff.1 hget
    exact ⟨hpos, Nat.le_of_pred_lt hlt⟩
  · rintro ⟨hpos, hle⟩
    obtain ⟨l, r, hq⟩ := List.append_of_mem (h.slots k hpos hle)
    exact ⟨_, _, hslot.2 ⟨l, r, hq, rfl, rfl⟩⟩
  · intro k before after hk
    obtain ⟨l, r, hq, rfl, rfl⟩ := hslot.1 hk
    exact (h.compared hq).2

end Query.Binds

end CatalogShell
