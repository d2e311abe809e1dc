import CatalogShell.Command.Builtin
import CatalogShell.Proofs.Command.History
import CatalogShell.Proofs.Session.Exchange

/-!
# What the help command tells

The help command is made from a list of the commands that are there before it is registered. What
it tells is nevertheless the list of the registry that it becomes part of: if its key is new, then
registering it adds it at the end of the list and leaves the rest as it was.

* `Registry.registrations_register_of_new`: a registration under one new key is listed last.
* `Registry.HelpListsCommands`: the help command of a registry tells about its commands.
* `Registry.help_lists_current_commands`: it does so after any registrations, and after those of
  the built-in commands, which may replace earlier ones.
-/

namespace CatalogShell

namespace Registry

variable {g : Registry} {history : List Registration} {r : Registration} {key : String}
  {entries : List (String × Registration)} {c : Command}

/-! ## New keys -/

theorem find?_eq_none_iff : g.find? key = none ↔ key ∉ g.entries.map Prod.fst := by
  rw [find?, Option.map_eq_none_iff, List.find?_eq_none]
  simp only [List.mem_map, decide_eq_true_eq, not_exists, not_and]

theorem put_of_new (h : key ∉ entries.map Prod.fst) :
    put key r entries = entries ++ [(key, r)] := by
  induction entries with
  | nil => rfl
  | cons entry entries ih =>
    rw [List.map_cons, List.mem_cons, not_or] at h
    rw [put, if_neg (Ne.symm h.1), ih h.2, List.cons_append]

/-- A registration whose number is new is listed last. -/
theorem distinct_concat {rs : List Registration} (h : ∀ r' ∈ rs, r'.serial ≠ r.serial) :
    distinct (rs ++ [r]) = distinct rs ++ [r] := by
  induction rs with
  | nil => rfl
  | cons r' rs ih =>
    rw [List.forall_mem_cons] at h
    simp [distinct, ih h.2, Ne.symm h.1]

/-- The numbers of registrations that are there are smaller than the next one. -/
theorem Records.serial_lt (h : Records g history) (hr : r ∈ g.entries.map Prod.snd) :
    r.serial < g.count := by
  obtain ⟨⟨key, r⟩, hentry, rfl⟩ := List.mem_map.1 hr
  have howns := (h.find? key r).1 (h.mem_entries_iff.1 hentry)
  rw [h.count]
  exact (List.getElem?_eq_some_iff.1 (h.serial r howns.mem)).1

theorem registrations_register_of_new (h : Records g history) (hkeys : c.keys = [key])
    (hnew : g.find? key = none) :
    (g.register c).registrations = g.registrations ++ [⟨g.count, c⟩] := by
  have hentries : (g.register c).entries = g.entries ++ [(key, ⟨g.count, c⟩)] := by
    simp only [register, hkeys, List.foldl_cons, List.foldl_nil]
    exact put_of_new (find?_eq_none_iff.1 hnew)
  rw [registrations, hentries, List.map_append]
  exact distinct_concat fun r' hr' => Nat.ne_of_lt (h.serial_lt hr')

/-- Commands without a key leave what is found under it. -/
theorem find?_registerAll_of_notMem {commands : List Command}
    (h : key ∉ commands.flatMap Command.keys) :
    (g.registerAll commands).find? key = g.find? key := by
  induction commands generalizing g with
  | nil => rfl
  | cons c commands ih =>
    rw [List.flatMap_cons, List.mem_append, not_or] at h
    exact (ih h.2).trans ((find?_register c key).trans (if_neg h.1))

/-! ## The list of commands -/

/-- What is listed is what some verb finds. -/
theorem Records.mem_registrations_iff_lookup? (h : Records g history) :
    r ∈ g.registrations ↔ ∃ verb, g.lookup? verb = some r := by
  rw [h.mem_registrations]
  constructor
  · rintro ⟨key, howns⟩
    exact ⟨key, (h.lookup?_iff key).2 (.inl howns)⟩
  · rintro ⟨verb, hfound⟩
    obtain howns | ⟨-, howns, -⟩ := (h.lookup?_iff verb).1 hfound
    · exact ⟨verb, howns⟩
    · exact ⟨_, howns⟩

/-- The table that tells about commands. -/
def helpTable (commands : List Command) : ResultSet :=
  ⟨["Command", "Description"], commands.map fun c => ⟨[.text c.usage, .text c.description]⟩⟩

/-- The help command of a registry tells about all its commands, itself included, and asks nothing.
Listed are the registrations that still own a key, each of them once, and they are all that can be
found. -/
structure HelpListsCommands (g : Registry) (history : List Registration) : Prop where
  answers : ∃ help ∈ g.registrations, g.lookup? "\\?" = some help ∧
    help.command.usage = "\\?" ∧ help.command.description = "Show commands." ∧
    ∀ {σ : Type} (db : Database σ) (limit : Option Nat) (s : Session σ) (mode : PatternMode)
      (args : String) (verbose : Bool),
      s.run db limit (help.command.handler mode args verbose).run =
        ⟨.ok (.rows (helpTable g.commands)), [], s⟩
  once : g.registrations.Nodup
  owns : ∀ r, r ∈ g.registrations ↔ ∃ key, r.Owns history key
  found : ∀ r, r ∈ g.registrations ↔ ∃ verb, g.lookup? verb = some r

/-- The help command that tells about the commands of a registry. -/
def helpCommand (g : Registry) : Command := .help (g.commands.map fun c => (c.usage, c.description))

theorem commands_registerHelp (h : Records g history) (hnew : g.find? "\\?" = none) :
    g.registerHelp.commands = g.commands ++ [g.helpCommand] := by
  have hregistrations : (g.register g.helpCommand).registrations = _ :=
    registrations_register_of_new h rfl hnew
  rw [commands, registerHelp, ← helpCommand, hregistrations, List.map_append]
  rfl

/-- What the help command answers was fixed before it was registered, and tells about itself. -/
theorem handler_helpCommand (g : Registry) (mode : PatternMode) (args : String) (verbose : Bool) :
    g.helpCommand.handler mode args verbose =
      pure (.rows (helpTable (g.commands ++ [g.helpCommand]))) := by
  simp only [helpTable, List.map_append, helpCommand, Command.help, Handler.help, List.map_map]
  rfl

theorem helpListsCommands_registerHelp (h : Records g history) (hnew : g.find? "\\?" = none) :
    HelpListsCommands g.registerHelp (history ++ [⟨history.length, g.helpCommand⟩]) := by
  have hrecords : Records g.registerHelp _ := h.register g.helpCommand
  have hfound : g.registerHelp.find? "\\?" = some ⟨g.count, g.helpCommand⟩ :=
    (find?_register g.helpCommand "\\?").trans (if_pos List.mem_cons_self)
  have hlookup : g.registerHelp.lookup? "\\?" = some ⟨g.count, g.helpCommand⟩ := by
    rw [lookup?, hfound]
  refine ⟨⟨_, hrecords.mem_registrations_iff_lookup?.2 ⟨_, hlookup⟩, hlookup, rfl, rfl, ?_⟩,
    registrations_nodup _, fun r => hrecords.mem_registrations,
    fun r => hrecords.mem_registrations_iff_lookup?⟩
  intro σ db limit s mode args verbose
  rw [handler_helpCommand, commands_registerHelp h hnew]
  rfl

/-! ## After any registrations -/

theorem registerAll_append (g : Registry) (commands commands' : List Command) :
    g.registerAll (commands ++ commands') = (g.registerAll commands).registerAll commands' :=
  List.foldl_append

theorem helpListsCommands_registerAll (commands : List Command)
    (h : (registerAll {} commands).find? "\\?" = none) :
    HelpListsCommands (registerAll {} commands).registerHelp
      (historyOf (commands ++ [(registerAll {} commands).helpCommand])) := by
  rw [historyOf_concat]
  exact helpListsCommands_registerHelp (records_registerAll commands) h

theorem notMem_keys_builtin : "\\?" ∉ Command.builtin.flatMap Command.keys := by
  decide

/-- After any registrations in an empty registry, none of them under the key of the help command:
the help command tells about the commands of the registry that it is registered in. It also does
so if the built-in commands are registered before it. -/
theorem help_lists_current_commands (commands : List Command)
    (h : (registerAll {} commands).find? "\\?" = none) :
    let g := registerAll {} commands
    HelpListsCommands g.registerHelp (historyOf (commands ++ [g.helpCommand])) ∧
      HelpListsCommands g.registerBuiltin (historyOf (commands ++ Command.builtin ++
        [(g.registerAll Command.builtin).helpCommand])) := by
  intro g
  refine ⟨helpListsCommands_registerAll commands h, ?_⟩
  have hnew : (g.registerAll Command.builtin).find? "\\?" = none :=
    (find?_registerAll_of_notMem notMem_keys_builtin).trans h
  rw [registerBuiltin]
  rw [← registerAll_append] at hnew ⊢
  exact helpListsCommands_registerAll _ hnew

/-- The built-in commands replace one of two that are there, and the help command tells about the
other one. -/
theorem help_lists_kept_command :
    let answer : Handler := fun _ _ _ => pure (.rows {})
    let commands : List Command := [
      { verb := "\\dt", usage := "", description := "replaced", handler := answer },
      { verb := "\\x", aliases := ["\\dx"], usage := "", description := "kept", handler := answer }]
    let g := registerAll {} commands
    HelpListsCommands g.registerBuiltin (historyOf (commands ++ Command.builtin ++
        [(g.registerAll Command.builtin).helpCommand])) ∧
      (g.registerBuiltin.commands.map (·.description)).take 3 =
        ["List tables.", "kept", "List extensions."] := by
  intro answer commands g
  have h : g.find? "\\?" = none := rfl
  exact ⟨(help_lists_current_commands commands h).2, by decide +kernel⟩

end Registry

end CatalogShell
