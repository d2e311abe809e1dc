import CatalogShell.Regex.Basic

/-!
# What regular expressions match

`Regex.Matches text r i j` says that the stretch of `text` from position `i` to position `j`
matches `r`. It is defined by the shape of the expression, with any number of rounds for a
repetition.

* `computes_ends`: the matcher computes just that, from sets of positions to sets of positions.
  The rounds of a repetition without limit are bounded because a round that stays where it is can
  be left out (`Steps.exists_le`).
* `isMatch_iff`: an expression matches a text if it matches some stretch of it.
-/

namespace CatalogShell

/-! ## Sets of positions -/

namespace Positions

theorem testBit_filter (meets : Nat → Bool) (n j : Nat) :
    (filter meets n).testBit j = (decide (j < n) && meets j) := by
  induction n with
  | zero => simp [filter]
  | succ n ih =>
    simp only [filter, Nat.testBit_or, ih]
    by_cases hj : j = n
    · subst hj
      cases hm : meets j <;> simp [Nat.one_shiftLeft]
    · have hbit : (if meets n = true then 1 <<< n else 0).testBit j = false := by
        split
        · rw [Nat.one_shiftLeft]
          exact Nat.testBit_two_pow_of_ne (Ne.symm hj)
        · exact Nat.zero_testBit j
      rw [hbit, Bool.or_false]
      congr 1
      simp only [decide_eq_decide]
      omega

theorem testBit_without (ps seen : Positions) (j : Nat) :
    (without ps seen).testBit j = (ps.testBit j && !seen.testBit j) := by
  simp only [without, Nat.testBit_xor, Nat.testBit_or]
  cases ps.testBit j <;> cases seen.testBit j <;> rfl

theorem ne_zero_iff (ps : Positions) : ps ≠ 0 ↔ ∃ i, ps.testBit i = true := by
  constructor
  · exact Nat.exists_testBit_of_ne_zero
  · rintro ⟨i, hi⟩ rfl
    simp at hi

end Positions

/-! ## Rounds of a relation -/

/-- `n` steps of a relation lead from one position to another. -/
def Steps (R : Nat → Nat → Prop) : Nat → Nat → Nat → Prop
  | 0, i, j => i = j
  | n + 1, i, j => ∃ k, R i k ∧ Steps R n k j

namespace Steps

variable {R : Nat → Nat → Prop} {i j k m n : Nat}

theorem add (h : Steps R m i k) (h' : Steps R n k j) : Steps R (m + n) i j := by
  induction m generalizing i with
  | zero =>
    obtain rfl : i = k := h
    simpa using h'
  | succ m ih =>
    obtain ⟨l, hl, h⟩ := h
    rw [Nat.succ_add]
    exact ⟨l, hl, ih h⟩

theorem split (h : Steps R (m + n) i j) : ∃ k, Steps R m i k ∧ Steps R n k j := by
  induction m generalizing i with
  | zero => exact ⟨i, rfl, by simpa using h⟩
  | succ m ih =>
    rw [Nat.succ_add] at h
    obtain ⟨l, hl, h⟩ := h
    obtain ⟨k, hk, h⟩ := ih h
    exact ⟨k, ⟨l, hl, hk⟩, h⟩

theorem le (hR : ∀ i j, R i j → i ≤ j) (h : Steps R n i j) : i ≤ j := by
  induction n generalizing i with
  | zero => exact Nat.le_of_eq h
  | succ n ih =>
    obtain ⟨k, hk, h⟩ := h
    exact Nat.le_trans (hR _ _ hk) (ih h)

/-- A relation that never goes back needs no more steps than there are positions between. -/
theorem exists_le (hR : ∀ i j, R i j → i ≤ j) (h : Steps R n i j) :
    ∃ m, m ≤ j - i ∧ Steps R m i j := by
  induction n generalizing i with
  | zero =>
    obtain rfl : i = j := h
    exact ⟨0, Nat.zero_le _, rfl⟩
  | succ n ih =>
    obtain ⟨k, hk, h⟩ := h
    obtain ⟨m, hm, hsteps⟩ := ih h
    by_cases hik : i = k
    · exact ⟨m, hik ▸ hm, hik ▸ hsteps⟩
    · have h1 := hR _ _ hk
      have h2 := hsteps.le hR
      exact ⟨m + 1, by omega, k, hk, hsteps⟩

end Steps

/-! ## Rounds of a matcher -/

/-- The positions are positions of a text of the given size. -/
def Positions.Within (size : Nat) (ps : Positions) : Prop := ∀ i, ps.testBit i = true → i ≤ size

/-- `step` takes positions to all those that `R` leads to. -/
structure Computes (size : Nat) (step : Positions → Positions) (R : Nat → Nat → Prop) : Prop where
  testBit_step : ∀ {ps}, ps.Within size → ∀ j,
    (step ps).testBit j = true ↔ ∃ i, ps.testBit i = true ∧ R i j
  within : ∀ {i j}, R i j → i ≤ size → j ≤ size

namespace Computes

variable {size : Nat} {step : Positions → Positions} {R : Nat → Nat → Prop}
  (h : Computes size step R) {ps seen latest : Positions}
include h

theorem within_step (hps : ps.Within size) : (step ps).Within size := by
  intro j hj
  obtain ⟨i, hi, hij⟩ := (h.testBit_step hps j).1 hj
  exact h.within hij (hps i hi)

theorem within_steps {n i j : Nat} (hs : Steps R n i j) (hi : i ≤ size) : j ≤ size := by
  induction n generalizing i with
  | zero => exact (show i = j from hs) ▸ hi
  | succ n ih =>
    obtain ⟨k, hk, hs⟩ := hs
    exact ih hs (h.within hk hi)

/-- A round may be made first. -/
theorem exists_steps_succ (hps : ps.Within size) (n j : Nat) :
    (∃ i, ps.testBit i = true ∧ Steps R (n + 1) i j) ↔
      ∃ k, (step ps).testBit k = true ∧ Steps R n k j := by
  constructor
  · rintro ⟨i, hi, k, hk, hs⟩
    exact ⟨k, (h.testBit_step hps k).2 ⟨i, hi, hk⟩, hs⟩
  · rintro ⟨k, hk, hs⟩
    obtain ⟨i, hi, hik⟩ := (h.testBit_step hps k).1 hk
    exact ⟨i, hi, k, hik, hs⟩

theorem testBit_rounds (hps : ps.Within size) (n j : Nat) :
    (Positions.rounds step n ps).testBit j = true ↔
      ∃ i, ps.testBit i = true ∧ Steps R n i j := by
  induction n generalizing ps with
  | zero => simp [Positions.rounds, Steps]
  | succ n ih =>
    rw [h.exists_steps_succ hps]
    unfold Positions.rounds
    dsimp only
    split
    · next hfix =>
      -- A round that changes nothing can be repeated.
      rw [hfix]
      clear ih
      induction n with
      | zero => simp [Steps]
      | succ n ih => rwa [h.exists_steps_succ hps, hfix]
    · exact ih (h.within_step hps)

theorem within_rounds (hps : ps.Within size) (n : Nat) :
    (Positions.rounds step n ps).Within size := by
  intro j hj
  obtain ⟨i, hi, hs⟩ := (h.testBit_rounds hps n j).1 hj
  exact h.within_steps hs (hps i hi)

/-- `seen` has all that its positions lead to, but perhaps not what the latest of them do. -/
theorem testBit_upTo (hseen : seen.Within size)
    (hsub : ∀ i, latest.testBit i = true → seen.testBit i = true)
    (hclosed : ∀ i, seen.testBit i = true → latest.testBit i = false → ∀ j, R i j →
      seen.testBit j = true) (n j : Nat) :
    (Positions.upTo step n seen latest).testBit j = true ↔
      ∃ k, k ≤ n ∧ ∃ i, seen.testBit i = true ∧ Steps R k i j := by
  induction n generalizing seen latest with
  | zero => simp [Positions.upTo, Steps]
  | succ n ih =>
    have hlatest : latest.Within size := fun i hi => hseen i (hsub i hi)
    have hnext (i : Nat) : ((step latest).without seen).testBit i = true ↔
        (step latest).testBit i = true ∧ seen.testBit i = false := by
      rw [Positions.testBit_without]
      simp
    have hgrow {i m : Nat} (hi : seen.testBit i = true) (hm : R i m) :
        seen.testBit m = true ∨ ((step latest).without seen).testBit m = true := by
      cases hs : seen.testBit m with
      | true => exact .inl rfl
      | false =>
        cases hl : latest.testBit i with
        | false => simp [hclosed i hi hl m hm] at hs
        | true => exact .inr ((hnext m).2 ⟨(h.testBit_step hlatest m).2 ⟨i, hl, hm⟩, hs⟩)
    unfold Positions.upTo
    dsimp only
    split
    · next hzero =>
      constructor
      · exact fun hj => ⟨0, Nat.zero_le _, j, hj, rfl⟩
      · rintro ⟨k, -, i, hi, hs⟩
        induction k generalizing i with
        | zero => exact (show i = j from hs) ▸ hi
        | succ k ihk =>
          obtain ⟨m, hm, hs⟩ := hs
          refine ihk m ((hgrow hi hm).resolve_right fun hm => ?_) hs
          simp [hzero] at hm
    · have hunion (i : Nat) : (seen ||| (step latest).without seen).testBit i = true ↔
          seen.testBit i = true ∨ ((step latest).without seen).testBit i = true := by
        simp
      refine (ih ?_ (fun i hi => (hunion i).2 (.inr hi)) ?_).trans ?_
      · intro i hi
        obtain hi | hi := (hunion i).1 hi
        · exact hseen i hi
        · exact h.within_step hlatest i ((hnext i).1 hi).1
      · intro i hi hl m hm
        rw [hunion, hl] at hi
        exact (hunion m).2 (hgrow (hi.resolve_right (by simp)) hm)
      · constructor
        · rintro ⟨k, hk, i, hi, hs⟩
          obtain hi | hi := (hunion i).1 hi
          · exact ⟨k, by omega, i, hi, hs⟩
          · obtain ⟨m, hm, hmi⟩ := (h.testBit_step hlatest i).1 ((hnext i).1 hi).1
            exact ⟨k + 1, by omega, m, hsub m hm, i, hmi, hs⟩
        · rintro ⟨k, hk, i, hi, hs⟩
          cases k with
          | zero => exact ⟨0, Nat.zero_le _, i, (hunion i).2 (.inl hi), hs⟩
          | succ k =>
            obtain ⟨m, hm, hs⟩ := hs
            exact ⟨k, by omega, m, (hunion m).2 (hgrow hi hm), hs⟩

end Computes

/-! ## Expressions -/

namespace Regex

/-- The stretch from one position to another matches. A repetition is made `least` times and then
up to `most - least` times more. -/
def Matches (text : Array Char) : Regex → Nat → Nat → Prop
  | .empty, i, j => i = j
  | .one set, i, j => (∃ c, text[i]? = some c ∧ set.has c = true) ∧ j = i + 1
  | .look l, i, j => l.holds text i = true ∧ i = j
  | .seq a b, i, j => ∃ k, Matches text a i k ∧ Matches text b k j
  | .alt a b, i, j => Matches text a i j ∨ Matches text b i j
  | .times r least most, i, j =>
    ∃ n, (∀ m ∈ most, n ≤ m - least) ∧ Steps (Matches text r) (least + n) i j

variable {text : Array Char}

theorem Matches.le {r : Regex} {i j : Nat} (h : Matches text r i j) : i ≤ j := by
  induction r generalizing i j with
  | empty => exact Nat.le_of_eq h
  | one set => exact h.2 ▸ Nat.le_succ i
  | look l => exact Nat.le_of_eq h.2
  | seq a b iha ihb =>
    obtain ⟨k, ha, hb⟩ := h
    exact Nat.le_trans (iha ha) (ihb hb)
  | alt a b iha ihb => exact h.elim iha ihb
  | times r least most ih =>
    obtain ⟨n, -, h⟩ := h
    exact h.le fun _ _ => ih

theorem lt_size_of_getElem? {i : Nat} {c : Char} (h : text[i]? = some c) : i < text.size := by
  obtain ⟨hi, -⟩ := Array.getElem?_eq_some_iff.1 h
  exact hi

/-- The matcher computes what the expression matches. -/
theorem computes_ends (text : Array Char) (r : Regex) :
    Computes text.size (ends text r) (Matches text r) := by
  induction r with
  | empty => exact ⟨fun _ j => by simp [ends, Matches], fun h hi => (show _ = _ from h) ▸ hi⟩
  | one set =>
    refine ⟨fun {ps} hps j => ?_, fun h hi => ?_⟩
    · rw [ends, Nat.testBit_shiftLeft, Positions.testBit_filter]
      simp only [Matches, Bool.and_eq_true, decide_eq_true_eq, Option.any_eq_true]
      constructor
      · rintro ⟨hj, -, hi, hc⟩
        exact ⟨j - 1, hi, hc, by omega⟩
      · rintro ⟨i, hi, ⟨c, hget, hc⟩, rfl⟩
        exact ⟨by omega, lt_size_of_getElem? hget, hi, c, hget, hc⟩
    · obtain ⟨⟨c, hc, -⟩, rfl⟩ := h
      exact lt_size_of_getElem? hc
  | look l =>
    refine ⟨fun {ps} hps j => ?_, fun h hi => h.2 ▸ hi⟩
    rw [ends, Positions.testBit_filter]
    simp only [Matches, Bool.and_eq_true, decide_eq_true_eq]
    constructor
    · rintro ⟨-, hj, hl⟩
      exact ⟨j, hj, hl, rfl⟩
    · rintro ⟨i, hi, hl, rfl⟩
      exact ⟨Nat.lt_succ_of_le (hps i hi), hi, hl⟩
  | seq a b iha ihb =>
    refine ⟨fun {ps} hps j => ?_, fun h hi => ?_⟩
    · simp only [ends, Matches, ihb.testBit_step (iha.within_step hps), iha.testBit_step hps]
      constructor
      · rintro ⟨k, ⟨i, hi, ha⟩, hb⟩
        exact ⟨i, hi, k, ha, hb⟩
      · rintro ⟨i, hi, k, ha, hb⟩
        exact ⟨k, ⟨i, hi, ha⟩, hb⟩
    · obtain ⟨k, ha, hb⟩ := h
      exact ihb.within hb (iha.within ha hi)
  | alt a b iha ihb =>
    refine ⟨fun {ps} hps j => ?_, fun h hi => h.elim (iha.within · hi) (ihb.within · hi)⟩
    simp only [ends, Matches, Nat.testBit_or, Bool.or_eq_true, iha.testBit_step hps,
      ihb.testBit_step hps, ← exists_or, ← and_or_left]
  | times r least most ih =>
    refine ⟨fun {ps} hps j => ?_, fun h hi => ?_⟩
    · unfold ends
      rw [ih.testBit_upTo (ih.within_rounds hps least) (fun _ hi => hi)
        (fun _ hi hl => by simp [hi] at hl)]
      simp only [ih.testBit_rounds hps, Matches]
      constructor
      · rintro ⟨n, hn, k, ⟨i, hi, hfirst⟩, hmore⟩
        refine ⟨i, hi, n, fun m hm => ?_, hfirst.add hmore⟩
        obtain rfl : most = some m := hm
        exact hn
      · rintro ⟨i, hi, n, hn, hs⟩
        obtain ⟨k, hfirst, hmore⟩ := hs.split
        cases most with
        | some m => exact ⟨n, hn m rfl, k, ⟨i, hi, hfirst⟩, hmore⟩
        | none =>
          obtain ⟨m, hm, hmore⟩ := hmore.exists_le fun _ _ => Matches.le
          have hj := ih.within_steps hs (hps i hi)
          exact ⟨m, show m ≤ text.size + 1 by omega, k, ⟨i, hi, hfirst⟩, hmore⟩
    · obtain ⟨n, -, hs⟩ := h
      exact ih.within_steps hs hi

/-- An expression matches a text if it matches some stretch of it. -/
theorem isMatch_iff (r : Regex) (s : String) :
    r.isMatch s = true ↔
      ∃ i j, i ≤ s.toList.length ∧ Matches s.toList.toArray r i j := by
  have hall (i : Nat) : (Nat.pow 2 (s.toList.toArray.size + 1) - 1).testBit i = true ↔
      i ≤ s.toList.toArray.size := by
    rw [Nat.pow_eq, Nat.testBit_two_pow_sub_one, decide_eq_true_eq, Nat.lt_succ_iff]
  have hends := (computes_ends s.toList.toArray r).testBit_step fun i => (hall i).1
  simp only [isMatch, decide_eq_true_eq, Positions.ne_zero_iff, hends]
  constructor
  · rintro ⟨j, i, hi, h⟩
    exact ⟨i, j, by simpa using (hall i).1 hi, h⟩
  · rintro ⟨i, j, hi, h⟩
    exact ⟨j, i, (hall i).2 (by simpa using hi), h⟩

end Regex

end CatalogShell
