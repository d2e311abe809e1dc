import CatalogShell.Command.Builtin

/-!
# What the commands of a registry have in common

A property of all commands that are registered is one of every command that is found
(`Registry.Has.lookup?`). The built-in registry has it if the listed commands and the help
command have it (`Registry.has_builtin`).
-/

namespace CatalogShell

namespace Registry

/-- All commands of the registry have a property. -/
def Has (P : Command → Prop) (g : Registry) : Prop := ∀ entry ∈ g.entries, P entry.2.command

namespace Has

variable {P : Command → Prop} {g : Registry}

theorem empty (P : Command → Prop) : Has P {} := by
  intro entry h
  cases h

theorem put {key : String} {r : Registration} {entries : List (String × Registration)}
    (h : ∀ entry ∈ entries, P entry.2.command) (hr : P r.command) :
    ∀ entry ∈ Registry.put key r entries, P entry.2.command := by
  induction entries with
  | nil => exact List.forall_mem_cons.2 ⟨hr, h⟩
  | cons entry rest ih =>
    simp only [List.forall_mem_cons] at h
    unfold Registry.put
    split
    · exact List.forall_mem_cons.2 ⟨hr, h.2⟩
    · exact List.forall_mem_cons.2 ⟨h.1, ih h.2⟩

theorem register (h : Has P g) {c : Command} (hc : P c) : Has P (g.register c) := by
  unfold Has Registry.register
  generalize c.keys = keys
  have hentries : ∀ entry ∈ g.entries, P entry.2.command := h
  generalize g.entries = entries at hentries ⊢
  induction keys generalizing entries with
  | nil => exact hentries
  | cons key keys ih => exact ih _ (put hentries hc)

theorem registerAll (h : Has P g) {commands : List Command} (hc : ∀ c ∈ commands, P c) :
    Has P (g.registerAll commands) := by
  unfold Registry.registerAll
  induction commands generalizing g with
  | nil => exact h
  | cons c commands ih =>
    simp only [List.forall_mem_cons] at hc
    exact ih (h.register hc.1) hc.2

theorem find? (h : Has P g) {key : String} {r : Registration} (hr : g.find? key = some r) :
    P r.command := by
  unfold Registry.find? at hr
  obtain ⟨entry, hentry, rfl⟩ := Option.map_eq_some_iff.1 hr
  exact h entry (List.mem_of_find?_eq_some hentry)

theorem lookup? (h : Has P g) {verb : String} {r : Registration}
    (hr : g.lookup? verb = some r) : P r.command := by
  unfold Registry.lookup? at hr
  split at hr
  · next r' hr' => exact h.find? (hr' ▸ hr)
  · exact h.find? (Option.filter_eq_some_iff.1 hr).1

end Has

theorem has_builtin {P : Command → Prop} (hlisted : ∀ c ∈ Command.builtin, P c)
    (hhelp : ∀ others, P (.help others)) : Has P builtin :=
  ((Has.empty P).registerAll hlisted).register (hhelp _)

end Registry

end CatalogShell
