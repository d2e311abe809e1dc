import CatalogShell.Proofs.Regex.Matches
import CatalogShell.Regex.Reader

/-!
# Expressions in a row

A text that is made of short bodies, each of them an item on its own (`ReadsAs`), is read as the
sequence of the items: `read_anchored` does this for a row between `^(` and `)$`. What such a
sequence matches is what its items match one after the other (`matches_sequence`), and with both
anchors the whole text has to match (`isMatch_anchored`).
-/

namespace CatalogShell.Regex

/-! ## Reading a row -/

theorem head?_append_ne {body rest : List Char} (h : body.head? ≠ some '?')
    (hrest : rest.head? ≠ some '?') : (body ++ rest).head? ≠ some '?' := by
  cases body with
  | nil => exact hrest
  | cons c cs => exact h

/-- The characters that have a meaning of their own outside brackets. -/
def syntaxChars : List Char := ['(', ')', '|', '[', '*', '+', '?', '{', '\\', '.', '^', '$']

theorem skipLazy_eq {cs : List Char} (h : cs.head? ≠ some '?') : skipLazy cs = cs := by
  unfold skipLazy
  split
  · simp at h
  · rfl

section

variable [Properties]

/-- The rest of a text is read as `result` with as many steps as it has characters, or more. -/
def Reads (level : Level) (outer : List Level) (cs : List Char) (result : Item) : Prop :=
  ∀ fuel, cs.length ≤ fuel → readSteps fuel level outer cs = some result

namespace Reads

variable {level level' : Level} {outer outer' : List Level} {c : Char} {cs rest : List Char}
  {result : Item}

theorem nil : Reads level [] [] level.close := by
  intro fuel _
  cases fuel <;> rfl

theorem step (h : readStep level outer (c :: cs) = some (level', outer', rest))
    (hlen : rest.length ≤ cs.length) (hrest : Reads level' outer' rest result) :
    Reads level outer (c :: cs) result := by
  intro fuel hfuel
  cases fuel with
  | zero => simp at hfuel
  | succ fuel =>
    rw [readSteps, h]
    exact hrest fuel (Nat.le_trans hlen (Nat.le_of_succ_le_succ hfuel))

end Reads

/-- The text is read as one item where no question mark follows it. It does not itself start
with one, since a repetition before it would take that for its own. -/
structure ReadsAs (body : List Char) (item : Item) : Prop where
  head : body.head? ≠ some '?'
  reads : ∀ {level outer rest result}, rest.head? ≠ some '?' →
    Reads (level.add item) outer rest result → Reads level outer (body ++ rest) result

variable {α : Type} {body : α → List Char} {item : α → Item} {xs : List α}

theorem Reads.row {level : Level} {outer : List Level} {rest : List Char} {result : Item}
    (h : ∀ x ∈ xs, ReadsAs (body x) (item x)) (hrest : rest.head? ≠ some '?')
    (hr : Reads { level with items := (xs.map item).reverse ++ level.items } outer rest result) :
    (xs.flatMap body ++ rest).head? ≠ some '?' ∧
      Reads level outer (xs.flatMap body ++ rest) result := by
  induction xs generalizing level with
  | nil => exact ⟨hrest, hr⟩
  | cons x xs ih =>
    rw [List.forall_mem_cons] at h
    have hr' : Reads { level.add (item x) with
        items := (xs.map item).reverse ++ (level.add (item x)).items } outer rest result := by
      simpa [Level.add] using hr
    obtain ⟨hhead, hreads⟩ := ih h.2 hr'
    rw [List.flatMap_cons, List.append_assoc]
    exact ⟨head?_append_ne h.1.head hhead, h.1.reads hhead hreads⟩

/-! ## Bodies of one item -/

theorem readStep_char {level : Level} {outer : List Level} {c : Char} {cs : List Char}
    (hc : c ∉ syntaxChars) :
    readStep level outer (c :: cs) = some (level.add ⟨.one (.single c), 0⟩, outer, cs) := by
  simp only [syntaxChars, List.mem_cons, List.not_mem_nil, or_false, not_or] at hc
  unfold readStep
  split <;> simp_all

theorem readEscape_symbol {c : Char} {cs : List Char} (hascii : c.toNat < 128)
    (hsymbol : c.isAlphanum = false) (hc : c ∉ ['<', '>']) :
    readEscape (c :: cs) = some (.literal c, cs) := by
  unfold readEscape
  dsimp only
  split
  all_goals first
    | exact if_pos ⟨hascii, by simp [hsymbol]⟩
    | exact absurd hsymbol (by decide)
    | exact absurd hc (by decide)

theorem readsAs_char {c : Char} (hc : c ∉ syntaxChars) : ReadsAs [c] ⟨.one (.single c), 0⟩ where
  head h := hc (by simp [Option.some.inj h, syntaxChars])
  reads _ hrest := .step (readStep_char hc) (Nat.le_refl _) hrest

theorem readsAs_escape {c : Char} (hascii : c.toNat < 128) (hsymbol : c.isAlphanum = false)
    (hc : c ∉ ['<', '>']) : ReadsAs ['\\', c] ⟨.one (.single c), 0⟩ where
  head := by simp
  reads {level outer rest result} _ hrest := by
    refine .step ?_ (Nat.le_succ _) hrest
    simp only [List.append_eq, List.cons_append, List.nil_append, readStep]
    rw [readEscape_symbol hascii hsymbol hc]
    rfl

theorem readsAs_dot : ReadsAs ['.'] ⟨.one anyChar, 0⟩ where
  head := by simp
  reads _ hrest := .step rfl (Nat.le_refl _) hrest

theorem readsAs_dotStar : ReadsAs ['.', '*'] ⟨.times (.one anyChar) 0 none, 1⟩ where
  head := by simp
  reads {level outer rest result} hhead hrest := by
    refine .step rfl (Nat.le_refl _) (.step ?_ (Nat.le_refl _) hrest)
    simp only [List.append_eq, List.nil_append, readStep]
    rw [skipLazy_eq hhead]
    rfl

end

/-! ## The size of a sequence -/

theorem foldl_max_le {ns : List Nat} {m n : Nat} (hm : m ≤ n) (h : ∀ k ∈ ns, k ≤ n) :
    ns.foldl max m ≤ n := by
  induction ns generalizing m with
  | nil => exact hm
  | cons k ns ih =>
    rw [List.forall_mem_cons] at h
    exact ih (Nat.max_le.2 ⟨hm, h.1⟩) h.2

theorem height_sequence_le {items : List Item} {n : Nat} (h : ∀ i ∈ items, i.height ≤ n) :
    (sequence items).height ≤ n + 1 := by
  match items with
  | [] => exact Nat.zero_le _
  | [i] => exact Nat.le_succ_of_le (h i (by simp))
  | last :: i :: is =>
    exact Nat.succ_le_succ (foldl_max_le (Nat.zero_le n) (List.forall_mem_map.2 h))

/-- A sequence with at least one item, its last. -/
theorem regex_sequence_cons (last : Item) (earlier : List Item) :
    (sequence (last :: earlier)).regex =
      earlier.foldl (fun after item => .seq item.regex after) last.regex := by
  cases earlier <;> rfl

theorem unrolled_foldl_seq {items : List Item} {r : Regex} (hr : unrolled r = 0)
    (h : ∀ i ∈ items, unrolled i.regex = 0) :
    unrolled (items.foldl (fun after item => .seq item.regex after) r) = 0 := by
  induction items generalizing r with
  | nil => exact hr
  | cons i is ih =>
    rw [List.forall_mem_cons] at h
    exact ih (by simp [unrolled, h.1, hr]) h.2

theorem unrolled_sequence {items : List Item} (h : ∀ i ∈ items, unrolled i.regex = 0) :
    unrolled (sequence items).regex = 0 := by
  cases items with
  | nil => rfl
  | cons last earlier =>
    rw [List.forall_mem_cons] at h
    rw [regex_sequence_cons]
    exact unrolled_foldl_seq h.1 h.2

/-! ## Anchored rows -/

/-- An expression between both anchors. -/
def anchored (r : Regex) : Regex := .seq (.look .start) (.seq r (.look .stop))

section

variable [Properties] {α : Type} {body : α → List Char} {item : α → Item} {xs : List α}

theorem readSteps_anchored (h : ∀ x ∈ xs, ReadsAs (body x) (item x)) :
    let group := sequence (xs.map item).reverse
    Reads {} [] ('^' :: '(' :: (xs.flatMap body ++ [')', '$']))
      (sequence [⟨.look .stop, 0⟩, ⟨group.regex, group.height + 1⟩, ⟨.look .start, 0⟩]) := by
  intro group
  refine .step rfl (Nat.le_refl _) ?_
  refine .step rfl (Nat.le_refl _) ?_
  refine (Reads.row h (by simp) ?_).2
  refine .step rfl (Nat.le_refl _) ?_
  refine .step rfl (Nat.le_refl _) ?_
  rw [List.append_nil]
  exact Reads.nil

/-- A row of items between anchors is read, unless they are nested very deep or hold counted
repetitions. -/
theorem read_anchored (h : ∀ x ∈ xs, ReadsAs (body x) (item x))
    (hsmall : ∀ x ∈ xs, (item x).height ≤ 1 ∧ unrolled (item x).regex = 0) :
    readChars ('^' :: '(' :: (xs.flatMap body ++ [')', '$'])) =
      some (anchored (sequence (xs.map item).reverse).regex) := by
  have hheight : (sequence (xs.map item).reverse).height ≤ 2 :=
    height_sequence_le (by simpa using fun x hx => (hsmall x hx).1)
  have hunrolled : unrolled (sequence (xs.map item).reverse).regex = 0 :=
    unrolled_sequence (by simpa using fun x hx => (hsmall x hx).2)
  have hheights : (sequence [⟨.look .stop, 0⟩, ⟨(sequence (xs.map item).reverse).regex,
      (sequence (xs.map item).reverse).height + 1⟩, ⟨.look .start, 0⟩]).height ≤ 4 := by
    apply height_sequence_le
    simp only [List.forall_mem_cons, List.not_mem_nil, false_imp_iff, implies_true, and_true]
    omega
  have hweights : unrolled (anchored (sequence (xs.map item).reverse).regex) = 0 := by
    simp [anchored, unrolled, hunrolled]
  rw [readChars, readSteps_anchored h _ (Nat.le_refl _)]
  simp only [Option.bind_eq_bind, Option.bind_some]
  exact if_pos ⟨Nat.le_trans hheights (by decide), Nat.le_trans (Nat.le_of_eq hweights) (by decide)⟩

end

/-! ## Matching a row -/

variable {text : Array Char} {i j : Nat}

/-- The expressions match one after the other. -/
def Through (text : Array Char) : List Regex → Nat → Nat → Prop
  | [], i, j => i = j
  | r :: rs, i, j => ∃ k, Matches text r i k ∧ Through text rs k j

theorem through_append (rs rs' : List Regex) :
    Through text (rs ++ rs') i j ↔ ∃ k, Through text rs i k ∧ Through text rs' k j := by
  induction rs generalizing i with
  | nil => simp [Through]
  | cons r rs ih =>
    simp only [List.cons_append, Through, ih]
    constructor
    · rintro ⟨k, hk, l, hl, hj⟩
      exact ⟨l, ⟨k, hk, hl⟩, hj⟩
    · rintro ⟨l, ⟨k, hk, hl⟩, hj⟩
      exact ⟨k, hk, l, hl, hj⟩

theorem matches_foldl_seq (r : Regex) (items : List Item) :
    Matches text (items.foldl (fun after item => .seq item.regex after) r) i j ↔
      Through text ((items.map Item.regex).reverse ++ [r]) i j := by
  induction items generalizing r with
  | nil => simp [Through]
  | cons item items ih =>
    rw [List.foldl_cons, ih, List.map_cons, List.reverse_cons, List.append_assoc]
    simp [through_append, Through, Matches]

theorem matches_sequence (items : List Item) :
    Matches text (sequence items).regex i j ↔
      Through text (items.map Item.regex).reverse i j := by
  cases items with
  | nil => simp [sequence, Through, Matches]
  | cons last earlier =>
    rw [regex_sequence_cons, matches_foldl_seq, List.map_cons, List.reverse_cons]

variable {cs : List Char} {set : CharSet}

/-- One character of a set takes the first off what is left of the text. -/
theorem matches_one : Matches cs.toArray (.one set) i j ↔
    ∃ c, cs.drop i = c :: cs.drop j ∧ set.has c = true ∧ j = i + 1 := by
  simp only [Matches, List.getElem?_toArray]
  constructor
  · rintro ⟨⟨c, hget, hc⟩, rfl⟩
    obtain ⟨hi, rfl⟩ := List.getElem?_eq_some_iff.1 hget
    exact ⟨cs[i], List.drop_eq_getElem_cons hi, hc, rfl⟩
  · rintro ⟨c, hdrop, hc, rfl⟩
    have hget : (cs.drop i)[0]? = some c := by simp [hdrop]
    exact ⟨⟨c, by simpa using hget, hc⟩, rfl⟩

theorem steps_one {n : Nat} : Steps (Matches cs.toArray (.one set)) n i j ↔
    ∃ run, cs.drop i = run ++ cs.drop j ∧ (∀ c ∈ run, set.has c = true) ∧
      run.length = n ∧ j = i + n := by
  induction n generalizing i with
  | zero =>
    constructor
    · rintro rfl
      exact ⟨[], rfl, by simp, rfl, rfl⟩
    · rintro ⟨run, -, -, -, rfl⟩
      exact rfl
  | succ n ih =>
    simp only [Steps, matches_one, ih]
    constructor
    · rintro ⟨k, ⟨c, hc, hset, rfl⟩, run, hrun, hall, rfl, rfl⟩
      exact ⟨c :: run, by rw [hc, hrun, List.cons_append], List.forall_mem_cons.2 ⟨hset, hall⟩,
        rfl, by omega⟩
    · rintro ⟨run, hrun, hall, hlen, rfl⟩
      obtain ⟨c, run, rfl⟩ := List.exists_cons_of_length_eq_add_one hlen
      rw [List.forall_mem_cons] at hall
      have htail : cs.drop (i + 1) = run ++ cs.drop (i + (n + 1)) := by
        rw [← List.tail_drop, hrun, List.cons_append, List.tail_cons]
      exact ⟨i + 1, ⟨c, by rw [htail, hrun, List.cons_append], hall.1, rfl⟩,
        run, htail, hall.2, Nat.succ.inj hlen, by omega⟩

/-- A repetition without limit takes any run of characters of its set. -/
theorem matches_many : Matches cs.toArray (.times (.one set) 0 none) i j ↔
    ∃ run, cs.drop i = run ++ cs.drop j ∧ (∀ c ∈ run, set.has c = true) ∧ j = i + run.length := by
  rw [Matches]
  simp only [steps_one]
  constructor
  · rintro ⟨n, -, run, hdrop, hall, hlen, rfl⟩
    exact ⟨run, hdrop, hall, by omega⟩
  · rintro ⟨run, hdrop, hall, rfl⟩
    exact ⟨run.length, by simp, run, hdrop, hall, (Nat.zero_add _).symm, by omega⟩

theorem isMatch_anchored (r : Regex) (s : String) :
    (anchored r).isMatch s = true ↔ Matches s.toList.toArray r 0 s.toList.length := by
  simp only [isMatch_iff, anchored, Matches, Look.holds, decide_eq_true_eq, List.size_toArray]
  constructor
  · rintro ⟨i, j, -, k, ⟨rfl, rfl⟩, l, hr, rfl, rfl⟩
    exact hr
  · intro h
    exact ⟨0, s.toList.length, Nat.zero_le _, 0, ⟨rfl, rfl⟩, _, h, rfl, rfl⟩

end CatalogShell.Regex
