import CatalogShell.Proofs.Regex.Bracket
import CatalogShell.Proofs.Regex.Sequence

/-!
# Expressions that are enclosed in a group

A body is read between `^(` and `)$` as it is read alone, only with one more open group around it
(`readStep_groupEnd`), until it closes that group itself. So, when the whole can be read, the body
is an expression of its own and the whole is anchored, or else the body closes a group that it does
not open (`readChars_enclosed`).
-/

namespace CatalogShell.Regex

variable {level base : Level} {outer : List Level} {cs rest : List Char}

/-! ## Texts and items around a body -/

/-- A body that is enclosed in an anchored group. -/
def enclosed (body : List Char) : List Char := '^' :: '(' :: (body ++ groupEnd)

/-- The item of a filter whose body has been read between the items of the base. -/
def Level.enclose (base : Level) (item : Item) : Item :=
  ((base.add ⟨item.regex, item.height + 1⟩).add ⟨.look .stop, 0⟩).close

/-- The two anchors and the group make the item higher by two levels, and unroll nothing. -/
theorem enclose_start (item : Item) :
    Level.enclose { items := [⟨.look .start, 0⟩] } item =
      ⟨anchored item.regex, item.height + 2⟩ := by
  have hheight : [0, item.height + 1, 0].foldl max 0 + 1 = item.height + 2 := by
    simp
  change (⟨anchored item.regex, [0, item.height + 1, 0].foldl max 0 + 1⟩ : Item) = _
  rw [hheight]

theorem unrolled_anchored (r : Regex) : unrolled (anchored r) = unrolled r := by
  simp [anchored, unrolled]

/-! ## Closing the group -/

section

variable [Properties]

/-- Reading comes to a parenthesis that closes a group outside of the text. -/
inductive ClosesOutside : Level → List Level → List Char → Prop where
  | here (level : Level) (cs : List Char) : ClosesOutside level [] (')' :: cs)
  | later {level level' : Level} {outer outer' : List Level} {cs rest : List Char}
      (step : readStep level outer cs = some (level', outer', rest))
      (next : ClosesOutside level' outer' rest) : ClosesOutside level outer cs

/-- A text that closes a group outside of it is no expression. -/
theorem ClosesOutside.readSteps (h : ClosesOutside level outer cs) (fuel : Nat) :
    readSteps fuel level outer cs = none := by
  induction h generalizing fuel with
  | here level cs => cases fuel <;> rfl
  | @later level level' outer outer' cs rest step _ ih =>
    cases cs with
    | nil => cases step
    | cons c cs =>
      cases fuel with
      | zero => cases outer <;> rfl
      | succ fuel =>
        rw [Regex.readSteps, step]
        exact ih fuel

end

/-! ## One step -/

/-- One step without and with `groupEnd` behind the text. -/
inductive StepExtends (base : Level) (alone followed : Option (Level × List Level × List Char)) :
    Prop where
  | same {level : Level} {outer : List Level} {rest : List Char}
      (ha : alone = some (level, outer, rest))
      (hf : followed = some (level, outer ++ [base], rest ++ groupEnd))
  | lost (ha : alone = none)
      (hf : ∀ level outer rest, followed = some (level, outer, rest) → outer ≠ [] ∧ Stuck rest)

theorem skipLazy_groupEnd (cs : List Char) :
    skipLazy (cs ++ groupEnd) = skipLazy cs ++ groupEnd := by
  fun_cases skipLazy cs
  case case1 => rfl
  case case2 hquestion =>
    rw [skipLazy]
    exact groupEnd_ne_cons (by decide) hquestion

theorem skipLazy_takesWhole (cs : List Char) : TakesWhole cs (skipLazy cs) := by
  fun_cases skipLazy cs
  case case1 => exact .cons (by decide) (.refl _)
  case case2 => exact .refl _

theorem StepExtends.repeated (level : Option Level) (outer : List Level) (cs : List Char) :
    StepExtends base (level.map fun level => (level, outer, skipLazy cs))
      (level.map fun level => (level, outer ++ [base], skipLazy (cs ++ groupEnd))) := by
  cases level with
  | none => exact .lost rfl (by simp)
  | some level => exact .same rfl (by rw [skipLazy_groupEnd]; rfl)

section

variable [Properties]

/-- A step with one more group around it, unless it closes that group. -/
theorem readStep_groupEnd (level base : Level) (outer : List Level) (c : Char) (cs : List Char)
    (h : c = ')' → outer ≠ []) :
    StepExtends base (readStep level outer (c :: cs))
      (readStep level (outer ++ [base]) (c :: (cs ++ groupEnd))) := by
  by_cases hc : c ∈ syntaxChars
  · simp only [syntaxChars, List.mem_cons, List.not_mem_nil, or_false] at hc
    rcases hc with rfl | rfl | rfl | rfl | rfl | rfl | rfl | rfl | rfl | rfl | rfl | rfl
    · exact .same rfl rfl
    · cases outer with
      | nil => exact absurd rfl (h rfl)
      | cons next outer => exact .same rfl rfl
    · exact .same rfl rfl
    · simp only [readStep, readSet_groupEnd]
      cases readSet (2 * cs.length + 2) cs with
      | none => exact .lost rfl (by simp)
      | some r => exact .same rfl rfl
    · exact .repeated _ outer cs
    · exact .repeated _ outer cs
    · exact .repeated _ outer cs
    · simp only [readStep, readBounds_groupEnd]
      cases readBounds cs with
      | none => exact .lost rfl (by simp)
      | some r =>
        obtain ⟨least, most, rest⟩ := r
        have hrepeated := @StepExtends.repeated base (level.repeatLast least most) outer rest
        rwa [Option.map_eq_bind, Option.map_eq_bind] at hrepeated
    · simp only [readStep]
      cases readEscape_groupEnd cs with
      | same ha hf =>
        rw [ha, hf]
        exact .same rfl rfl
      | lost ha hf =>
        rw [ha]
        refine .lost rfl ?_
        intro level' outer' rest hstep
        obtain ⟨⟨a, rest⟩, hescape, heq⟩ := Option.map_eq_some_iff.1 hstep
        cases heq
        exact ⟨by simp, hf a rest hescape⟩
    · exact .same rfl rfl
    · exact .same rfl rfl
    · exact .same rfl rfl
  · exact .same (readStep_char hc) (readStep_char hc)

/-- A step takes at least one character off the text, and no part of an escape. -/
theorem readStep_takes {level' : Level} {outer' : List Level}
    (h : readStep level outer cs = some (level', outer', rest)) :
    Left cs rest ∧ TakesWhole cs rest := by
  cases cs with
  | nil => cases h
  | cons c cs =>
    have htakes (hc : c ≠ '\\') (hrest : TakesWhole cs rest) :
        Left (c :: cs) rest ∧ TakesWhole (c :: cs) rest :=
      ⟨.cons hrest.suffix, hrest.cons hc⟩
    by_cases hc : c ∈ syntaxChars
    · have hrepeated (repeated : Option Level) {after : List Char} (hafter : TakesWhole cs after)
          (h : repeated.map (fun level => (level, outer, skipLazy after)) =
            some (level', outer', rest)) : TakesWhole cs rest := by
        obtain ⟨level, -, heq⟩ := Option.map_eq_some_iff.1 h
        cases heq
        exact hafter.trans (skipLazy_takesWhole after)
      simp only [syntaxChars, List.mem_cons, List.not_mem_nil, or_false] at hc
      rcases hc with rfl | rfl | rfl | rfl | rfl | rfl | rfl | rfl | rfl | rfl | rfl | rfl
      · cases h
        exact htakes (by decide) (.refl rest)
      · cases outer with
        | nil => cases h
        | cons next outer =>
          cases h
          exact htakes (by decide) (.refl rest)
      · cases h
        exact htakes (by decide) (.refl rest)
      · obtain ⟨⟨s, after⟩, hset, heq⟩ := Option.map_eq_some_iff.1 h
        cases heq
        exact htakes (by decide) (.of_suffix (by decide) ((setsClose _).set hset))
      · exact htakes (by decide) (hrepeated _ (.refl cs) h)
      · exact htakes (by decide) (hrepeated _ (.refl cs) h)
      · exact htakes (by decide) (hrepeated _ (.refl cs) h)
      · obtain ⟨⟨least, most, after⟩, hbounds, h⟩ := Option.bind_eq_some_iff.1 h
        have hbrace : TakesWhole cs after := .of_suffix (by decide) (readBounds_close hbounds)
        refine htakes (by decide) (hrepeated (level.repeatLast least most) hbrace ?_)
        rw [Option.map_eq_bind]
        exact h
      · obtain ⟨⟨a, after⟩, hescape, heq⟩ := Option.map_eq_some_iff.1 h
        cases heq
        obtain ⟨hleft, hwhole⟩ := readEscape_takes hescape
        exact ⟨.cons hleft.suffix, hwhole⟩
      · cases h
        exact htakes (by decide) (.refl rest)
      · cases h
        exact htakes (by decide) (.refl rest)
      · cases h
        exact htakes (by decide) (.refl rest)
    · have hbackslash : c ≠ '\\' := by
        rintro rfl
        exact hc (by decide)
      rw [readStep_char hc] at h
      cases h
      exact htakes hbackslash (.refl rest)

/-! ## Whole texts -/

/-- What is left when the end of the group has been taken from behind the text is no expression. -/
theorem readSteps_stuck (fuel : Nat) (level : Level) (houter : outer ≠ []) (h : Stuck rest) :
    readSteps fuel level outer rest = none := by
  obtain ⟨next, outer, rfl⟩ := List.exists_cons_of_ne_nil houter
  rcases h with rfl | rfl
  · cases fuel with
    | zero => rfl
    | succ fuel => cases fuel <;> rfl
  · cases fuel <;> rfl

/-- What becomes of a text without and with one more group around it. -/
inductive Enclosure (base level : Level) (outer : List Level) (cs : List Char)
    (alone followed : Option Item) : Prop where
  /-- It is read in the same way. -/
  | read (item : Item) (ha : alone = some item) (hf : followed = some (base.enclose item))
  /-- It is no expression, because it closes a group outside of it. -/
  | outside (ha : alone = none) (hcloses : ClosesOutside level outer cs)
  /-- It is no expression in either place. -/
  | none (ha : alone = none) (hf : followed = none)

theorem readSteps_end (base level : Level) (outer : List Level) (fuel fuel' : Nat) :
    Enclosure base level outer [] (readSteps fuel level outer [])
      (readSteps (fuel' + 2) level (outer ++ [base]) groupEnd) := by
  cases outer with
  | nil =>
    have hfollowed : readSteps (fuel' + 2) level [base] groupEnd =
        some (base.enclose level.close) := by
      cases fuel' <;> rfl
    refine .read level.close ?_ hfollowed
    cases fuel <;> rfl
  | cons next outer =>
    -- The parenthesis closes an inner group, and the one around the text is left open.
    have hopen : outer ++ [base] ≠ [] := by simp
    refine .none ?_ (readSteps_stuck (fuel' + 1) _ hopen (.inl rfl))
    cases fuel <;> rfl

theorem readSteps_groupEnd (base level : Level) (outer : List Level) {fuel fuel' : Nat}
    (hfuel : cs.length ≤ fuel) (hfuel' : cs.length + 2 ≤ fuel') :
    Enclosure base level outer cs (readSteps fuel level outer cs)
      (readSteps fuel' level (outer ++ [base]) (cs ++ groupEnd)) := by
  induction fuel generalizing fuel' level outer cs with
  | zero =>
    obtain rfl : cs = [] := List.length_eq_zero_iff.1 (Nat.le_zero.1 hfuel)
    obtain ⟨n, rfl⟩ : ∃ n, fuel' = n + 2 := ⟨fuel' - 2, by simp at hfuel'; omega⟩
    exact readSteps_end base level outer 0 n
  | succ fuel ih =>
    cases cs with
    | nil =>
      obtain ⟨n, rfl⟩ : ∃ n, fuel' = n + 2 := ⟨fuel' - 2, by simp at hfuel'; omega⟩
      exact readSteps_end base level outer (fuel + 1) n
    | cons c cs =>
      simp only [List.length_cons] at hfuel hfuel'
      obtain ⟨fuel', rfl⟩ : ∃ n, fuel' = n + 1 := ⟨fuel' - 1, by omega⟩
      by_cases hcloses : c = ')' ∧ outer = []
      · obtain ⟨rfl, rfl⟩ := hcloses
        have hhere : ClosesOutside level [] (')' :: cs) := .here level cs
        exact .outside (hhere.readSteps _) hhere
      · have hstep := readStep_groupEnd level base outer c cs fun hc houter =>
          hcloses ⟨hc, houter⟩
        rw [List.cons_append, readSteps, readSteps]
        cases hstep with
        | @same level' outer' rest ha hf =>
          have hlen := (readStep_takes ha).1.length_lt
          simp only [List.length_cons] at hlen
          rw [ha, hf]
          have hrest : Enclosure base level' outer' rest (readSteps fuel level' outer' rest)
              (readSteps fuel' level' (outer' ++ [base]) (rest ++ groupEnd)) :=
            ih level' outer' (by omega) (by omega)
          cases hrest with
          | read item hitem hfollowed => exact .read item hitem hfollowed
          | outside hnone hlater => exact .outside hnone (.later ha hlater)
          | none hnone hfollowed => exact .none hnone hfollowed
        | lost ha hf =>
          rw [ha]
          refine .none rfl ?_
          cases hfollowed : readStep level (outer ++ [base]) (c :: (cs ++ groupEnd)) with
          | none => rfl
          | some r =>
            obtain ⟨houter, hstuck⟩ := hf r.1 r.2.1 r.2.2 hfollowed
            exact readSteps_stuck fuel' r.1 houter hstuck

/-! ## Filters -/

theorem readSteps_enclosed (body : List Char) :
    readSteps (enclosed body).length {} [] (enclosed body) =
      readSteps (body.length + 2) {} [{ items := [⟨.look .start, 0⟩] }] (body ++ groupEnd) := by
  have hlen : (enclosed body).length = body.length + 2 + 1 + 1 := by
    simp [enclosed, groupEnd]
  rw [hlen]
  rfl

/-- If the whole can be read, the body is an expression and the whole is anchored, or else the body
closes a group outside of it and is no expression. -/
theorem readChars_enclosed {body : List Char} {r : Regex} (h : readChars (enclosed body) = some r) :
    (∃ b, readChars body = some b ∧ r = anchored b ∧ ¬ ClosesOutside {} [] body) ∨
      readChars body = none ∧ ClosesOutside {} [] body := by
  rw [readChars, readSteps_enclosed] at h
  obtain ⟨item, hitem, h⟩ := Option.bind_eq_some_iff.1 h
  have henclosure := readSteps_groupEnd { items := [⟨.look .start, 0⟩] } {} []
    (Nat.le_refl body.length) (Nat.le_refl _)
  rw [List.nil_append, hitem] at henclosure
  cases henclosure with
  | read inner ha hf =>
    rw [Option.some.inj hf, enclose_start] at h
    dsimp only at h
    rw [unrolled_anchored] at h
    split at h
    · next hsmall =>
      refine .inl ⟨inner.regex, ?_, (Option.some.inj h).symm, ?_⟩
      · rw [readChars, ha]
        exact if_pos ⟨by omega, hsmall.2⟩
      · intro hcloses
        rw [hcloses.readSteps] at ha
        cases ha
    · cases h
  | outside ha hcloses =>
    refine .inr ⟨?_, hcloses⟩
    rw [readChars, ha]
    rfl
  | none ha hf => cases hf

end

end CatalogShell.Regex
