import CatalogShell.Command.Registry
import Mathlib.Data.List.Dedup
import Mathlib.Data.List.Induction

/-!
# What a registry knows of its history

The history of a registry is the list of its registrations, the ones that have been replaced
included. A registration owns a key if it is the last one that has it (`Registration.Owns`).

* `find?_put`, `find?_foldl_put`: what is found after a registration.
* `Registry.Records`: a registry finds the owner of each key and has no key twice. Registering
  keeps this (`Records.register`), so that it holds after any commands (`records_registerAll`).
* `registrations_nodup`, `Records.mem_registrations`: each registration that owns a key is listed
  once.
* `Registry.registerAll_follows_history`: look-ups, the number of keys and the list of
  registrations, told from the history alone.
-/

namespace CatalogShell

/-- The registration is the last one of the history that has the key. -/
def Registration.Owns (r : Registration) (history : List Registration) (key : String) : Prop :=
  ∃ before after, history = before ++ r :: after ∧ key ∈ r.command.keys ∧
    ∀ later ∈ after, key ∉ later.command.keys

namespace Registration.Owns

variable {r r' : Registration} {history : List Registration} {key : String}

theorem mem (h : r.Owns history key) : r ∈ history := by
  obtain ⟨before, after, rfl, -⟩ := h
  exact List.mem_append_right before List.mem_cons_self

theorem mem_keys (h : r.Owns history key) : key ∈ r.command.keys := by
  obtain ⟨-, -, -, hkey, -⟩ := h
  exact hkey

theorem not_nil : ¬ r.Owns [] key := by
  rintro ⟨before, after, heq, -⟩
  cases before <;> cases heq

/-- A further registration owns all its keys, and leaves the owners of the others. -/
theorem snoc_iff : r.Owns (history ++ [r']) key ↔
    if key ∈ r'.command.keys then r = r' else r.Owns history key := by
  constructor
  · rintro ⟨before, after, heq, hkey, hafter⟩
    rcases List.eq_nil_or_concat after with rfl | ⟨rest, last, rfl⟩
    · obtain ⟨-, hlast⟩ := List.append_inj' heq rfl
      obtain rfl : r' = r := by simpa using hlast
      rw [if_pos hkey]
    · rw [List.concat_eq_append, ← List.cons_append, ← List.append_assoc] at heq
      obtain ⟨hfront, hlast⟩ := List.append_inj' heq rfl
      obtain rfl : r' = last := by simpa using hlast
      have hnot : key ∉ r'.command.keys := hafter r' (by simp)
      rw [if_neg hnot]
      exact ⟨before, rest, hfront, hkey, fun later hlater => hafter later (by simp [hlater])⟩
  · intro h
    by_cases hkey : key ∈ r'.command.keys
    · rw [if_pos hkey] at h
      subst h
      exact ⟨history, [], rfl, hkey, by simp⟩
    · rw [if_neg hkey] at h
      obtain ⟨before, after, rfl, hr, hafter⟩ := h
      refine ⟨before, after ++ [r'], by simp, hr, ?_⟩
      intro later hlater
      rcases List.mem_append.1 hlater with hold | hnew
      · exact hafter later hold
      · rwa [List.mem_singleton.1 hnew]

/-- A key has an owner if a registration has it. -/
theorem exists_iff : (∃ r : Registration, r.Owns history key) ↔
    ∃ r ∈ history, key ∈ r.command.keys := by
  constructor
  · rintro ⟨r, hr⟩
    exact ⟨r, hr.mem, hr.mem_keys⟩
  · induction history using List.reverseRecOn with
    | nil => simp
    | append_singleton history r' ih =>
      rintro ⟨r, hr, hkey⟩
      by_cases hlast : key ∈ r'.command.keys
      · exact ⟨r', snoc_iff.2 (by rw [if_pos hlast])⟩
      · rcases List.mem_append.1 hr with hold | hnew
        · obtain ⟨owner, howner⟩ := ih ⟨r, hold, hkey⟩
          exact ⟨owner, snoc_iff.2 (by rwa [if_neg hlast])⟩
        · rw [List.mem_singleton.1 hnew] at hkey
          exact absurd hkey hlast

end Registration.Owns

namespace Registry

variable {g : Registry} {history : List Registration} {r : Registration} {key : String}
  {entries : List (String × Registration)}

/-! ## Putting registrations under keys -/

theorem find?_put (key' : String) : ((put key r entries).find? (·.1 = key')).map Prod.snd =
    if key' = key then some r else (entries.find? (·.1 = key')).map Prod.snd := by
  induction entries with
  | nil =>
    by_cases h : key' = key
    · simp [put, h]
    · simp [put, h, Ne.symm h]
  | cons entry entries ih =>
    unfold put
    split
    · next hentry =>
      subst hentry
      by_cases h : key' = entry.1
      · simp [h]
      · simp [h, Ne.symm h]
    · next hentry =>
      by_cases h : entry.1 = key'
      · subst h
        simp [hentry]
      · simpa [h] using ih

theorem keys_put : (put key r entries).map Prod.fst =
    if key ∈ entries.map Prod.fst then entries.map Prod.fst else entries.map Prod.fst ++ [key] := by
  induction entries with
  | nil => rfl
  | cons entry entries ih =>
    unfold put
    split
    · next hentry => simp [hentry]
    · next hentry =>
      rw [List.map_cons, ih]
      split
      · next hmem => simp [hmem]
      · next hmem => simp [hmem, Ne.symm hentry]

theorem nodup_keys_put (h : (entries.map Prod.fst).Nodup) :
    ((put key r entries).map Prod.fst).Nodup := by
  rw [keys_put]
  split
  · exact h
  · next hmem => exact List.nodup_append.2 ⟨h, by simp, by rintro a ha b hb rfl; simp_all⟩

theorem find?_foldl_put (keys : List String) (key' : String) :
    ((keys.foldl (fun entries key => put key r entries) entries).find? (·.1 = key')).map Prod.snd =
      if key' ∈ keys then some r else (entries.find? (·.1 = key')).map Prod.snd := by
  induction keys generalizing entries with
  | nil => simp
  | cons key keys ih =>
    rw [List.foldl_cons, ih, find?_put]
    by_cases h : key' = key
    · simp [h]
    · simp [h]

theorem nodup_keys_foldl_put (keys : List String) (h : (entries.map Prod.fst).Nodup) :
    ((keys.foldl (fun entries key => put key r entries) entries).map Prod.fst).Nodup := by
  induction keys generalizing entries with
  | nil => exact h
  | cons key keys ih => exact ih (nodup_keys_put h)

theorem find?_register (c : Command) (key : String) :
    (g.register c).find? key = if key ∈ c.keys then some ⟨g.count, c⟩ else g.find? key :=
  find?_foldl_put c.keys key

/-! ## The list of registrations -/

theorem distinct_pairwise (rs : List Registration) :
    (distinct rs).Pairwise fun r r' => r.serial ≠ r'.serial := by
  induction rs with
  | nil => exact .nil
  | cons r rs ih =>
    refine List.pairwise_cons.2 ⟨?_, ih.filter _⟩
    intro r' hr'
    have hne := (List.mem_filter.1 hr').2
    simpa using Ne.symm (by simpa using hne)

theorem mem_distinct {rs : List Registration}
    (h : ∀ r ∈ rs, ∀ r' ∈ rs, r.serial = r'.serial → r = r') : r ∈ distinct rs ↔ r ∈ rs := by
  induction rs with
  | nil => rfl
  | cons r' rs ih =>
    have hrest := ih fun a ha b hb =>
      h a (List.mem_cons_of_mem r' ha) b (List.mem_cons_of_mem r' hb)
    simp only [distinct, List.mem_cons, List.mem_filter, hrest]
    constructor
    · rintro (rfl | ⟨hr, -⟩)
      · exact .inl rfl
      · exact .inr hr
    · rintro (rfl | hr)
      · exact .inl rfl
      · by_cases hserial : r.serial = r'.serial
        · exact .inl (h r (List.mem_cons_of_mem r' hr) r' List.mem_cons_self hserial)
        · exact .inr ⟨hr, by simpa using hserial⟩

theorem registrations_nodup (g : Registry) : g.registrations.Nodup :=
  (distinct_pairwise _).imp fun hne heq => hne (congrArg Registration.serial heq)

/-! ## A registry and its history -/

/-- The registry finds the owner of each key in the history, has no key twice, and numbers
registrations by their place in the history. -/
structure Records (g : Registry) (history : List Registration) : Prop where
  find? : ∀ key r, g.find? key = some r ↔ r.Owns history key
  nodup : (g.entries.map Prod.fst).Nodup
  count : g.count = history.length
  serial : ∀ r ∈ history, history[r.serial]? = some r

namespace Records

theorem empty : Records {} [] where
  find? key r := iff_of_false (by simp [Registry.find?]) Registration.Owns.not_nil
  nodup := List.nodup_nil
  count := rfl
  serial := by simp

theorem register (h : Records g history) (c : Command) :
    Records (g.register c) (history ++ [⟨history.length, c⟩]) where
  find? key r := by
    rw [find?_register, Registration.Owns.snoc_iff, h.count]
    split
    · rw [Option.some.injEq, eq_comm]
    · exact h.find? key r
  nodup := nodup_keys_foldl_put c.keys h.nodup
  count := by
    rw [List.length_append, ← h.count]
    rfl
  serial r hr := by
    rcases List.mem_append.1 hr with hold | hnew
    · have hr' := h.serial r hold
      rw [List.getElem?_append_left (List.getElem?_eq_some_iff.1 hr').1]
      exact hr'
    · rw [List.mem_singleton.1 hnew]
      simp

theorem eq_of_serial_eq (h : Records g history) {r r' : Registration} (hr : r ∈ history)
    (hr' : r' ∈ history) (heq : r.serial = r'.serial) : r = r' := by
  have hget := h.serial r hr
  rw [heq, h.serial r' hr'] at hget
  exact (Option.some.inj hget).symm

/-- With no key twice, every entry is the one that is found. -/
theorem mem_entries_iff (h : Records g history) :
    (key, r) ∈ g.entries ↔ g.find? key = some r := by
  have hnodup := h.nodup
  unfold Registry.find?
  generalize g.entries = entries at hnodup
  induction entries with
  | nil => simp
  | cons entry entries ih =>
    obtain ⟨key', r'⟩ := entry
    rw [List.map_cons, List.nodup_cons] at hnodup
    by_cases hkey : key' = key
    · subst hkey
      have hnot : (key', r) ∉ entries := fun hmem =>
        hnodup.1 (List.mem_map.2 ⟨(key', r), hmem, rfl⟩)
      simp [hnot, eq_comm]
    · simpa [hkey, Ne.symm hkey] using ih hnodup.2

theorem mem_keys_iff (h : Records g history) :
    key ∈ g.entries.map Prod.fst ↔ ∃ r ∈ history, key ∈ r.command.keys := by
  rw [← Registration.Owns.exists_iff]
  constructor
  · intro hkey
    obtain ⟨⟨key, r⟩, hentry, rfl⟩ := List.mem_map.1 hkey
    exact ⟨r, (h.find? key r).1 (h.mem_entries_iff.1 hentry)⟩
  · rintro ⟨r, hr⟩
    have hentry : (key, r) ∈ g.entries := h.mem_entries_iff.2 ((h.find? key r).2 hr)
    exact List.mem_map_of_mem hentry

/-- The registrations that own a key are listed. -/
theorem mem_registrations (h : Records g history) :
    r ∈ g.registrations ↔ ∃ key, r.Owns history key := by
  have howner : ∀ r, r ∈ g.entries.map Prod.snd ↔ ∃ key, r.Owns history key := by
    intro r
    constructor
    · intro hr
      obtain ⟨⟨key, r⟩, hentry, rfl⟩ := List.mem_map.1 hr
      exact ⟨key, (h.find? key r).1 (h.mem_entries_iff.1 hentry)⟩
    · rintro ⟨key, hr⟩
      have hentry : (key, r) ∈ g.entries := h.mem_entries_iff.2 ((h.find? key r).2 hr)
      exact List.mem_map_of_mem hentry
  have hserials : ∀ r ∈ g.entries.map Prod.snd, ∀ r' ∈ g.entries.map Prod.snd,
      r.serial = r'.serial → r = r' := by
    intro r hr r' hr'
    obtain ⟨key, hown⟩ := (howner r).1 hr
    obtain ⟨key', hown'⟩ := (howner r').1 hr'
    exact h.eq_of_serial_eq hown.mem hown'.mem
  rw [registrations, mem_distinct hserials, howner]

/-- A verb is looked up as a key, and else in lower case among the commands that ignore case. -/
theorem lookup?_iff (h : Records g history) (verb : String) :
    g.lookup? verb = some r ↔ r.Owns history verb ∨
      (∀ r' : Registration, ¬ r'.Owns history verb) ∧ r.Owns history (Text.lower verb) ∧
        r.command.caseSensitive = false := by
  unfold lookup?
  cases hfind : g.find? verb with
  | some r' =>
    have hown : r'.Owns history verb := (h.find? verb r').1 hfind
    rw [← h.find? verb r, hfind]
    refine (or_iff_left ?_).symm
    rintro ⟨hnone, -⟩
    exact hnone r' hown
  | none =>
    have hnone : ∀ r' : Registration, ¬ r'.Owns history verb := by
      intro r' hown
      rw [(h.find? verb r').2 hown] at hfind
      cases hfind
    simp only [Option.filter_eq_some_iff, h.find?, hnone, false_or, not_false_eq_true,
      implies_true, true_and, Bool.not_eq_true']

end Records

/-- The registrations of commands in an empty registry. -/
def historyOf (commands : List Command) : List Registration := commands.mapIdx Registration.mk

theorem historyOf_concat (commands : List Command) (c : Command) : historyOf (commands ++ [c]) =
    historyOf commands ++ [⟨(historyOf commands).length, c⟩] := by
  rw [historyOf, List.mapIdx_concat, historyOf, List.length_mapIdx]

theorem records_registerAll (commands : List Command) :
    Records (registerAll {} commands) (historyOf commands) := by
  induction commands using List.reverseRecOn with
  | nil => exact .empty
  | append_singleton commands c ih =>
    rw [historyOf_concat, registerAll, List.foldl_concat]
    exact ih.register c

theorem Records.size_eq {commands : List Command} (h : Records g (historyOf commands)) :
    g.size = (commands.flatMap Command.keys).dedup.length := by
  have hmem : ∀ key, key ∈ g.entries.map Prod.fst ↔
      key ∈ (commands.flatMap Command.keys).dedup := by
    intro key
    rw [h.mem_keys_iff, List.mem_dedup, List.mem_flatMap, historyOf]
    constructor
    · rintro ⟨r, hr, hkey⟩
      obtain ⟨i, hi, rfl⟩ := List.mem_mapIdx.1 hr
      exact ⟨commands[i], List.getElem_mem hi, hkey⟩
    · rintro ⟨c, hc, hkey⟩
      obtain ⟨i, hi, rfl⟩ := List.getElem_of_mem hc
      exact ⟨⟨i, commands[i]⟩, List.mem_mapIdx.2 ⟨i, hi, rfl⟩, hkey⟩
  have hperm := (List.perm_ext_iff_of_nodup h.nodup (List.nodup_dedup _)).2 hmem
  rw [size, ← hperm.length_eq, List.length_map]

/-- After any registrations in an empty registry: a verb is found as the last registration that has
it as a key, or, if there is none, as the last one that has it in lower case, provided that this one
ignores case. The size is the number of different keys, and the registrations that still own a key
are listed, each of them once. -/
theorem registerAll_follows_history (commands : List Command) :
    let g := registerAll {} commands
    let history := historyOf commands
    (∀ verb r, g.lookup? verb = some r ↔ r.Owns history verb ∨
      (∀ r' : Registration, ¬ r'.Owns history verb) ∧ r.Owns history (Text.lower verb) ∧
        r.command.caseSensitive = false) ∧
    g.size = (commands.flatMap Command.keys).dedup.length ∧
    g.registrations.Nodup ∧
    ∀ r, r ∈ g.registrations ↔ ∃ key, r.Owns history key := by
  intro g history
  have hrecords : Records g history := records_registerAll commands
  exact ⟨fun verb r => hrecords.lookup?_iff verb, hrecords.size_eq, registrations_nodup g,
    fun r => hrecords.mem_registrations⟩

end Registry

end CatalogShell
