import CatalogShell.Proofs.Command.History

/-!
# The order in which registrations are listed

A key keeps its place when it is registered again. The list of registrations follows the places of
keys, not the order of registration: a registration stands where the first of the keys that it owns
was taken, by whichever registration took it (`Registration.Leads`).

* `TakenInOrder.put`: the keys of a registry stay in the order in which they were first taken.
* `pairwise_distinct`: the list of registrations follows that order.
* `Registry.registrations_follow_keys`: the list is in the order of registration exactly if each
  registration leads the later ones, and that is so if none that is listed has replaced another.
* `Registry.replaced_key_moves_ahead`: a later registration that is listed first.
-/

namespace CatalogShell

/-- Of two keys, the first was taken before the second in the registrations of the commands. -/
def TakenBefore (commands : List Command) (key key' : String) : Prop :=
  (commands.flatMap Command.keys).idxOf key < (commands.flatMap Command.keys).idxOf key'

/-- Of two registrations of the commands, the first owns a key that was taken before all the keys
that the second owns. -/
def Registration.Leads (commands : List Command) (r r' : Registration) : Prop :=
  ∃ key, r.Owns (Registry.historyOf commands) key ∧
    ∀ key', r'.Owns (Registry.historyOf commands) key' → TakenBefore commands key key'

namespace Registry

variable {g : Registry} {commands : List Command} {r r' : Registration} {key : String}
  {entries : List (String × Registration)} {taken : List String}

/-! ## The order of keys -/

/-- The entries have the keys that were taken, in the order in which these were first taken. -/
structure TakenInOrder (entries : List (String × Registration)) (taken : List String) : Prop where
  mem_iff : ∀ key, key ∈ entries.map Prod.fst ↔ key ∈ taken
  pairwise : (entries.map Prod.fst).Pairwise fun key key' => taken.idxOf key < taken.idxOf key'

namespace TakenInOrder

theorem put (h : TakenInOrder entries taken) (key : String) (r : Registration) :
    TakenInOrder (Registry.put key r entries) (taken ++ [key]) := by
  have hold : (entries.map Prod.fst).Pairwise fun k k' =>
      (taken ++ [key]).idxOf k < (taken ++ [key]).idxOf k' := by
    refine h.pairwise.imp_of_mem fun hk hk' hlt => ?_
    rwa [List.idxOf_append_of_mem ((h.mem_iff _).1 hk),
      List.idxOf_append_of_mem ((h.mem_iff _).1 hk')]
  -- A key that is there keeps its place, and its first occurrence among the keys taken is the old
  -- one. A new key comes last in both.
  by_cases hkey : key ∈ entries.map Prod.fst
  · refine ⟨fun k => ?_, ?_⟩
    · rw [keys_put, if_pos hkey, h.mem_iff, List.mem_append, List.mem_singleton]
      exact ⟨.inl, fun hk => hk.elim id fun heq => heq ▸ (h.mem_iff key).1 hkey⟩
    · rwa [keys_put, if_pos hkey]
  · refine ⟨fun k => ?_, ?_⟩
    · rw [keys_put, if_neg hkey, List.mem_append, List.mem_append, h.mem_iff]
    · rw [keys_put, if_neg hkey, List.pairwise_append]
      refine ⟨hold, List.pairwise_singleton _ _, fun k hk k' hk' => ?_⟩
      have hmem : k ∈ taken := (h.mem_iff k).1 hk
      have hnew : key ∉ taken := fun hmem => hkey ((h.mem_iff key).2 hmem)
      rw [List.mem_singleton.1 hk', List.idxOf_append_of_mem hmem,
        List.idxOf_append_of_notMem hnew]
      exact Nat.lt_add_right _ (List.idxOf_lt_length_of_mem hmem)

theorem foldl_put (h : TakenInOrder entries taken) (keys : List String) (r : Registration) :
    TakenInOrder (keys.foldl (fun entries key => Registry.put key r entries) entries)
      (taken ++ keys) := by
  induction keys generalizing entries taken with
  | nil => simpa using h
  | cons key keys ih => simpa using ih (h.put key r)

end TakenInOrder

theorem takenInOrder_registerAll (commands : List Command) :
    TakenInOrder (registerAll {} commands).entries (commands.flatMap Command.keys) := by
  induction commands using List.reverseRecOn with
  | nil => exact ⟨fun _ => .rfl, .nil⟩
  | append_singleton commands c ih =>
    rw [registerAll, List.foldl_concat, List.flatMap_append, List.flatMap_singleton]
    exact ih.foldl_put c.keys _

/-! ## The order of registrations -/

/-- A registration is listed at the place of its first key. -/
theorem pairwise_distinct {before : String → String → Prop}
    (h : (entries.map Prod.fst).Pairwise before) :
    (distinct (entries.map Prod.snd)).Pairwise fun r r' =>
      ∃ key, (key, r) ∈ entries ∧ ∀ key', (key', r') ∈ entries → before key key' := by
  induction entries with
  | nil => exact .nil
  | cons entry entries ih =>
    obtain ⟨key, r⟩ := entry
    rw [List.map_cons, List.pairwise_cons] at h
    -- The other entries of `r` are not listed again, so that `key` is no key of what follows.
    have hne : ∀ r' ∈ (distinct (entries.map Prod.snd)).filter (·.serial ≠ r.serial), r' ≠ r := by
      rintro r' hr' rfl
      simpa using (List.mem_filter.1 hr').2
    refine List.pairwise_cons.2 ⟨fun r' hr' => ⟨key, List.mem_cons_self, ?_⟩, ?_⟩
    · intro key' hkey'
      rcases List.mem_cons.1 hkey' with heq | hrest
      · exact absurd (Prod.mk.inj heq).2 (hne r' hr')
      · exact h.1 key' (List.mem_map_of_mem hrest)
    · refine ((ih h.2).filter _).imp_of_mem fun _ hb hlead => ?_
      obtain ⟨first, hfirst, hbefore⟩ := hlead
      refine ⟨first, List.mem_cons_of_mem _ hfirst, fun key' hkey' => ?_⟩
      rcases List.mem_cons.1 hkey' with heq | hrest
      · exact absurd (Prod.mk.inj heq).2 (hne _ hb)
      · exact hbefore key' hrest

theorem registrations_pairwise_leads (commands : List Command) :
    (registerAll {} commands).registrations.Pairwise (Registration.Leads commands) := by
  have hrecords := records_registerAll commands
  have howns : ∀ key r, (key, r) ∈ (registerAll {} commands).entries ↔
      r.Owns (historyOf commands) key := fun key r =>
    hrecords.mem_entries_iff.trans (hrecords.find? key r)
  refine (pairwise_distinct (takenInOrder_registerAll commands).pairwise).imp fun hlead => ?_
  obtain ⟨key, hkey, hbefore⟩ := hlead
  exact ⟨key, (howns key _).1 hkey, fun key' hkey' => hbefore key' ((howns key' _).2 hkey')⟩

theorem not_leads_of_leads (h : r.Leads commands r') : ¬ r'.Leads commands r := by
  rintro ⟨key', hkey', hbefore'⟩
  obtain ⟨key, hkey, hbefore⟩ := h
  exact Nat.lt_asymm (hbefore key' hkey') (hbefore' key hkey)

/-- The list is in the order of registration if each registration leads the later ones. -/
theorem pairwise_serial_iff : (registerAll {} commands).registrations.Pairwise
      (fun r r' => r.serial < r'.serial) ↔
    ∀ r ∈ (registerAll {} commands).registrations,
      ∀ r' ∈ (registerAll {} commands).registrations,
        r.serial < r'.serial → r.Leads commands r' := by
  have hrecords := records_registerAll commands
  have hleads := registrations_pairwise_leads commands
  constructor
  · intro hserial r hr r' hr' hlt
    obtain ⟨i, hi, rfl⟩ := List.getElem_of_mem hr
    obtain ⟨j, hj, rfl⟩ := List.getElem_of_mem hr'
    rw [List.pairwise_iff_getElem] at hserial hleads
    -- The places of `r` and `r'` in the list compare as their serials do.
    rcases Nat.lt_trichotomy i j with hij | rfl | hji
    · exact hleads i j hi hj hij
    · exact absurd hlt (Nat.lt_irrefl _)
    · exact absurd hlt (Nat.lt_asymm (hserial j i hj hi hji))
  · intro h
    refine hleads.imp_of_mem fun {r r'} hr hr' hlead => ?_
    rcases Nat.lt_trichotomy r.serial r'.serial with hlt | heq | hgt
    · exact hlt
    · obtain ⟨key, howns⟩ := hrecords.mem_registrations.1 hr
      obtain ⟨key', howns'⟩ := hrecords.mem_registrations.1 hr'
      obtain rfl := hrecords.eq_of_serial_eq howns.mem howns'.mem heq
      exact absurd hlead (not_leads_of_leads hlead)
    · exact absurd (h r' hr' r hr hgt) (not_leads_of_leads hlead)

/-! ## Registrations that replace none -/

theorem getElem?_of_mem_historyOf (h : r ∈ historyOf commands) :
    commands[r.serial]? = some r.command := by
  obtain ⟨i, hi, rfl⟩ := List.mem_mapIdx.1 h
  exact List.getElem?_eq_getElem hi

/-- A key that no earlier registration has is taken after all the keys of those. -/
theorem takenBefore_of_fresh {key' : String} (hr : r ∈ historyOf commands)
    (hlt : r.serial < r'.serial) (hkey : key ∈ r.command.keys)
    (hkey' : ∀ earlier ∈ historyOf commands, earlier.serial < r'.serial →
      key' ∉ earlier.command.keys) : TakenBefore commands key key' := by
  have hmem : key ∈ (commands.take r'.serial).flatMap Command.keys := by
    have hget : (commands.take r'.serial)[r.serial]? = some r.command := by
      rw [List.getElem?_take_of_lt hlt, getElem?_of_mem_historyOf hr]
    exact List.mem_flatMap.2 ⟨r.command, List.mem_of_getElem? hget, hkey⟩
  have hnew : key' ∉ (commands.take r'.serial).flatMap Command.keys := by
    intro hold
    obtain ⟨c, hc, hold⟩ := List.mem_flatMap.1 hold
    obtain ⟨i, hi, rfl⟩ := List.getElem_of_mem hc
    rw [List.length_take, Nat.lt_min] at hi
    rw [List.getElem_take] at hold
    exact hkey' ⟨i, commands[i]⟩ (List.mem_mapIdx.2 ⟨i, hi.2, rfl⟩) hi.1 hold
  rw [TakenBefore, ← List.take_append_drop r'.serial commands, List.flatMap_append,
    List.idxOf_append_of_mem hmem, List.idxOf_append_of_notMem hnew]
  exact Nat.lt_add_right _ (List.idxOf_lt_length_of_mem hmem)

/-- The registrations that own a key are listed, each once and in the order in which the first of
its keys was taken. That is the order of registration exactly if each of them leads the later ones,
and it is if none of them has a key that an earlier registration has, be it listed or not. -/
theorem registrations_follow_keys (commands : List Command) :
    let listed := (registerAll {} commands).registrations
    listed.Nodup ∧
    (∀ r, r ∈ listed ↔ ∃ key, r.Owns (historyOf commands) key) ∧
    listed.Pairwise (Registration.Leads commands) ∧
    (listed.Pairwise (fun r r' => r.serial < r'.serial) ↔
      ∀ r ∈ listed, ∀ r' ∈ listed, r.serial < r'.serial → r.Leads commands r') ∧
    ((∀ r ∈ listed, ∀ earlier ∈ historyOf commands, earlier.serial < r.serial →
        ∀ key ∈ r.command.keys, key ∉ earlier.command.keys) →
      listed.Pairwise fun r r' => r.serial < r'.serial) := by
  intro listed
  have hrecords := records_registerAll commands
  refine ⟨registrations_nodup _, fun r => hrecords.mem_registrations,
    registrations_pairwise_leads commands, pairwise_serial_iff, fun hfresh => ?_⟩
  refine pairwise_serial_iff.2 fun r hr r' hr' hlt => ?_
  obtain ⟨key, howns⟩ := hrecords.mem_registrations.1 hr
  refine ⟨key, howns, fun key' howns' => ?_⟩
  exact takenBefore_of_fresh howns.mem hlt howns.mem_keys fun earlier hearlier hbefore =>
    hfresh r' hr' earlier hearlier hbefore key' howns'.mem_keys

/-- The second registration takes over a key of the first and is listed before it. -/
theorem replaced_key_moves_ahead :
    let answer : Handler := fun _ _ _ => pure (.rows {})
    let commands : List Command := [
      { verb := "\\x", aliases := ["\\y"], usage := "", description := "first", handler := answer },
      { verb := "\\x", usage := "", description := "second", handler := answer }]
    (registerAll {} commands).registrations.map (fun r => (r.serial, r.command.description)) =
      [(1, "second"), (0, "first")] ∧
    ¬ (registerAll {} commands).registrations.Pairwise fun r r' => r.serial < r'.serial := by
  intro answer commands
  have hlisted : (registerAll {} commands).registrations =
      [⟨1, { verb := "\\x", usage := "", description := "second", handler := answer }⟩,
        ⟨0, { verb := "\\x", aliases := ["\\y"], usage := "", description := "first",
              handler := answer }⟩] := rfl
  rw [hlisted]
  exact ⟨rfl, by simp⟩

end Registry

end CatalogShell
