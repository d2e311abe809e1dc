import CatalogShell.Proofs.Text.Utf8
import CatalogShell.Proofs.Value.Row
import CatalogShell.Settings.Basic
import Mathlib.Data.List.Induction

/-!
# Settings built step by step

Settings are built from the defaults by steps that set the host, the port, the role or the database,
or lay a connection string over what there is. `Settings.latest` is what the last step that names a
setting makes of it; `Settings.latest_step_decides` compares it with the settings that are shown and with
what the driver is asked for.

These agree, but for one case: hosts and ports that a connection string lists are used as they are,
so that a host that is set after the string is shown and not used (`Settings.host_after_url_unused`).
-/

namespace CatalogShell

/-- A host that is given as text has this text. -/
theorem Host.text_ofText (name : String) : (Host.ofText name).text = name := by
  unfold Host.ofText
  split
  · exact Text.Utf8.decodeLossy_encode name
  · rfl

namespace Settings

/-- A step that sets one setting, or all those that a connection string names. -/
inductive Step where
  | host (name : String)
  | port (number : UInt16)
  | user (name : String)
  | database (name : String)
  | url (text : String)
deriving DecidableEq

/-- The settings after a step. -/
def apply (s : Settings) : Step → Except Failure Settings
  | .host name => .ok { s with host := name }
  | .port number => .ok { s with port := number }
  | .user name => .ok { s with user := some name }
  | .database name => .ok { s with database := some name }
  | .url text => s.withUrl text

/-- The settings after all steps, if every connection string among them can be read. -/
def build (steps : List Step) : Except Failure Settings := steps.foldlM apply {}

namespace Step

/-- The connection that a step lays over the settings. -/
def connection? : Step → Option Connection
  | .url text => Connection.parse? text
  | _ => none

/-- The host that a step names. Of several hosts the first one counts. -/
def host? : Step → Option String
  | .host name => some name
  | step => step.connection?.bind fun c => c.hosts.head?.map Host.text

/-- The port that a step names. -/
def port? : Step → Option UInt16
  | .port number => some number
  | step => step.connection?.bind fun c => c.ports.head?

/-- The role that a step names. -/
def user? : Step → Option String
  | .user name => some name
  | step => step.connection?.bind Connection.user

/-- The database that a step names. -/
def database? : Step → Option String
  | .database name => some name
  | step => step.connection?.bind Connection.database

/-- A step that lays a connection over the settings names what the connection names. -/
structure NamesAll (step : Step) (c : Connection) : Prop where
  host : step.host? = c.hosts.head?.map Host.text
  port : step.port? = c.ports.head?
  user : step.user? = c.user
  database : step.database? = c.database

theorem namesAll {step : Step} {c : Connection} (h : step.connection? = some c) :
    step.NamesAll c := by
  cases step with
  | url text => constructor <;> simp [host?, port?, user?, database?, h]
  | _ => cases h

end Step

/-- What the last of the steps names that name something. -/
def latest {α : Type} (names : Step → Option α) (steps : List Step) : Option α :=
  steps.reverse.findSome? names

/-- The steps after the last connection string, the last one first. -/
def sinceUrl (steps : List Step) : List Step :=
  steps.reverse.takeWhile fun step => step.connection?.isNone

variable {α : Type} {steps : List Step} {step : Step} {s s' : Settings} {c : Connection}

/-! ## The latest step -/

section Latest

variable {names : Step → Option α} {named : Connection → Option α}

theorem latest_concat : latest names (steps ++ [step]) = (names step).or (latest names steps) := by
  unfold latest
  rw [List.reverse_concat, List.findSome?_cons]
  cases names step <;> rfl

/-- What no step names after the last connection string is as that string names it. -/
theorem latest_of_sinceUrl {a : α} (hurl : ∀ step c, step.connection? = some c → names step = named c)
    (hc : latest Step.connection? steps = some c) (ha : named c = some a)
    (hquiet : ∀ step ∈ sinceUrl steps, names step = none) : latest names steps = some a := by
  unfold latest sinceUrl at *
  generalize steps.reverse = newestFirst at *
  induction newestFirst with
  | nil => cases hc
  | cons step earlier ih =>
    rw [List.findSome?_cons] at hc ⊢
    cases hstep : step.connection? with
    | some c' =>
      obtain rfl : c' = c := by simpa [hstep] using hc
      rw [hurl step c' hstep, ha]
    | none =>
      rw [List.takeWhile_cons_of_pos (by simp [hstep]), List.forall_mem_cons] at hquiet
      rw [hquiet.1]
      exact ih (by simpa [hstep] using hc) hquiet.2

/-- What no step names, the last connection string does not name. -/
theorem named_of_latest_eq_none
    (hurl : ∀ step c, step.connection? = some c → names step = named c)
    (hc : latest Step.connection? steps = some c) (h : latest names steps = none) :
    named c = none := by
  obtain ⟨step, hmem, hstep⟩ := List.exists_of_findSome?_eq_some hc
  rw [← hurl step c hstep]
  exact List.findSome?_eq_none_iff.1 h step hmem

end Latest

/-! ## The settings that are shown -/

theorem withUrl_eq_ok {text : String} :
    s.withUrl text = .ok s' ↔ ∃ c, Connection.parse? text = some c ∧ s' = s.overlay c := by
  unfold withUrl
  cases Connection.parse? text <;> simp [eq_comm]

/-- If each step that names a setting decides it, and no other step changes it, then the latest of
the steps that name it decides it. -/
theorem eq_latest_of_build {names : Step → Option α} {setting : Settings → Option α}
    (hstep : ∀ {s s' : Settings} (step : Step), s.apply step = .ok s' →
      setting s' = (names step).or (setting s)) (h : build steps = .ok s) :
    setting s = (latest names steps).or (setting {}) := by
  induction steps using List.reverseRecOn generalizing s with
  | nil =>
    cases h
    rfl
  | append_singleton steps step ih =>
    unfold build at h ih
    rw [List.foldlM_append] at h
    obtain ⟨before, hbefore, hlast⟩ := Reading.bind_eq_ok.1 h
    simp only [List.foldlM_cons, List.foldlM_nil, bind_pure] at hlast
    rw [hstep step hlast, ih hbefore, latest_concat, Option.or_assoc]

/-- What a step names replaces what there was, and everything else stays. -/
structure Replaces (step : Step) (s s' : Settings) : Prop where
  host : some s'.host = step.host?.or (some s.host)
  port : some s'.port = step.port?.or (some s.port)
  user : s'.user = step.user?.or s.user
  database : s'.database = step.database?.or s.database
  connection : s'.connection = step.connection?.or s.connection

theorem replaces_apply (step : Step) (h : s.apply step = .ok s') : Replaces step s s' := by
  cases step with
  | url text =>
    obtain ⟨c, hc, rfl⟩ := withUrl_eq_ok.1 h
    have hnames : (Step.url text).NamesAll c := Step.namesAll hc
    exact {
      host := by cases hfirst : c.hosts.head? <;> simp [overlay, hnames.host, hfirst]
      port := by cases hfirst : c.ports.head? <;> simp [overlay, hnames.port, hfirst]
      user := by simp [overlay, hnames.user]
      database := by simp [overlay, hnames.database]
      connection := by simp [overlay, Step.connection?, hc] }
  | _ =>
    cases h
    exact ⟨rfl, rfl, rfl, rfl, rfl⟩

/-! ## What the driver is asked for -/

/-- The settings and the connection that the driver is asked for, after some steps. -/
structure DecidedBy (steps : List Step) (s : Settings) (d : Connection) : Prop where
  host : s.host = (latest Step.host? steps).getD "localhost"
  port : s.port = (latest Step.port? steps).getD 5432
  user : s.user = latest Step.user? steps
  database : s.database = latest Step.database? steps
  /-- The driver is asked for the role and the database that are shown. -/
  toldUser : d.user = s.user
  toldDatabase : d.database = s.database
  /-- The host that is shown is the first one that the driver is asked for, unless it was set after
  a connection string that lists hosts. -/
  firstHost : (∀ step ∈ sinceUrl steps, step.host? = none) ∨
      (∀ c, latest Step.connection? steps = some c → c.hosts = []) →
    d.hosts.head?.map Host.text = some s.host
  firstPort : (∀ step ∈ sinceUrl steps, step.port? = none) ∨
      (∀ c, latest Step.connection? steps = some c → c.ports = []) →
    d.ports.head? = some s.port
  /-- Hosts that the last connection string lists are used as they are. -/
  listedHosts : ∀ c, latest Step.connection? steps = some c → c.hosts ≠ [] → d.hosts = c.hosts
  listedPorts : ∀ c, latest Step.connection? steps = some c → c.ports ≠ [] → d.ports = c.ports
  /-- Without such hosts it is the one that is shown. -/
  ownHosts : (∀ c, latest Step.connection? steps = some c → c.hosts = []) →
    d.hosts = [.ofText s.host]
  ownPorts : (∀ c, latest Step.connection? steps = some c → c.ports = []) → d.ports = [s.port]

section Told

variable {names : Step → Option α} (hconnection : s.connection = latest Step.connection? steps)

include hconnection

/-- What the settings do not name, the connection string that they keep does not name. -/
theorem orElse_eq_self {named : Connection → Option α}
    (hurl : ∀ step c, step.connection? = some c → names step = named c)
    (hempty : named {} = none) :
    (latest names steps <|> named (s.connection.getD {})) = latest names steps := by
  cases hlatest : latest names steps with
  | some a => rfl
  | none =>
    cases hc : s.connection with
    | none => exact hempty
    | some c => exact named_of_latest_eq_none hurl (hconnection ▸ hc) hlatest

/-- What the driver is asked for is what is shown, where the connection string lists nothing, and
begins with it, where nothing is set after the string. -/
theorem head?_told {β : Type} {listed : Connection → List β} {read : β → α} {own : β} {shown : α}
    (hurl : ∀ step c, step.connection? = some c → names step = (listed c).head?.map read)
    (hshown : ∀ a, latest names steps = some a → shown = a) (hown : read own = shown)
    (hempty : listed {} = [])
    (hset : (∀ step ∈ sinceUrl steps, names step = none) ∨
      ∀ c, latest Step.connection? steps = some c → listed c = []) :
    let items := listed (s.connection.getD {})
    (if items.isEmpty then [own] else items).head?.map read = some shown := by
  intro items
  cases hitems : items with
  | nil => simp [hown]
  | cons item rest =>
    cases hc : s.connection with
    | none => simp [items, hc, hempty] at hitems
    | some c =>
      have hlisted : listed c = item :: rest := by simpa [items, hc] using hitems
      have hlatest : latest Step.connection? steps = some c := hconnection ▸ hc
      obtain hquiet | hnone := hset
      · have hfirst := latest_of_sinceUrl hurl hlatest (by rw [hlisted]; rfl) hquiet
        simp [hshown _ hfirst]
      · simp [hnone c hlatest] at hlisted

end Told

/-- For every series of steps that can all be taken: each setting that is shown is what the latest
step makes of it that names it. The driver is asked for the role and the database that are shown,
and first of all for the host and the port that are shown, unless these were set after a connection
string that lists some. What such a string lists is used as it is. -/
theorem latest_step_decides {steps : List Step} {s : Settings} (h : build steps = .ok s) :
    DecidedBy steps s s.toConnection := by
  have hhost : some s.host = (latest Step.host? steps).or (some "localhost") :=
    eq_latest_of_build (fun step hs => (replaces_apply step hs).host) h
  have hport : some s.port = (latest Step.port? steps).or (some 5432) :=
    eq_latest_of_build (fun step hs => (replaces_apply step hs).port) h
  have huser : s.user = latest Step.user? steps := by
    rw [eq_latest_of_build (fun step hs => (replaces_apply step hs).user) h, Option.or_none]
  have hdatabase : s.database = latest Step.database? steps := by
    rw [eq_latest_of_build (fun step hs => (replaces_apply step hs).database) h, Option.or_none]
  have hconnection : s.connection = latest Step.connection? steps := by
    rw [eq_latest_of_build (fun step hs => (replaces_apply step hs).connection) h, Option.or_none]
  rw [Option.or_some, Option.some.injEq] at hhost hport
  have hlisted {c : Connection} (hc : latest Step.connection? steps = some c) :
      s.connection.getD {} = c := by
    rw [hconnection, hc]
    rfl
  have hkept {β : Type} {listed : Connection → List β}
      (hnone : ∀ c, latest Step.connection? steps = some c → listed c = [])
      (hempty : listed {} = []) : listed (s.connection.getD {}) = [] := by
    cases hc : s.connection with
    | none => exact hempty
    | some c => exact hnone c (hconnection ▸ hc)
  exact {
    host := hhost
    port := hport
    user := huser
    database := hdatabase
    toldUser := by
      change (s.user <|> (s.connection.getD {}).user) = s.user
      rw [huser]
      exact orElse_eq_self hconnection (fun _ _ hc => (Step.namesAll hc).user) rfl
    toldDatabase := by
      change (s.database <|> (s.connection.getD {}).database) = s.database
      rw [hdatabase]
      exact orElse_eq_self hconnection (fun _ _ hc => (Step.namesAll hc).database) rfl
    firstHost hset := by
      refine head?_told hconnection (fun _ _ hc => (Step.namesAll hc).host) (fun a ha => ?_)
        (Host.text_ofText s.host) rfl hset
      rw [hhost, ha]
      rfl
    firstPort hset := by
      have hurl (step : Step) (c : Connection) (h : step.connection? = some c) :
          step.port? = c.ports.head?.map id := by
        rw [(Step.namesAll h).port, Option.map_id, id]
      have hfirst : s.toConnection.ports.head?.map id = some s.port := by
        refine head?_told hconnection hurl (fun a ha => ?_) rfl rfl hset
        rw [hport, ha]
        rfl
      rwa [Option.map_id] at hfirst
    listedHosts c hc hne := by
      simp [toConnection, hlisted hc, hne]
    listedPorts c hc hne := by
      simp [toConnection, hlisted hc, hne]
    ownHosts hnone := by
      have hempty : (s.connection.getD {}).hosts = [] := hkept hnone rfl
      simp [toConnection, hempty]
    ownPorts hnone := by
      have hempty : (s.connection.getD {}).ports = [] := hkept hnone rfl
      simp [toConnection, hempty] }

theorem latest_step_decides_mixed :
    let steps : List Step := [.port 6000, .url "postgres://u@a/d", .user "v", .url "host=b user=w",
      .database "e", .port 7000]
    ∃ s, build steps = .ok s ∧ s.host = "b" ∧ s.port = 7000 ∧ s.user = some "w" ∧
      s.database = some "e" ∧ s.toConnection.user = some "w" ∧ s.toConnection.database = some "e" ∧
      s.toConnection.hosts.head?.map Host.text = some "b" ∧
      s.toConnection.ports.head? = some 7000 := by
  intro steps
  let first : Connection :=
    { hosts := [.tcp "a"], ports := [5432], user := some "u", database := some "d" }
  let second : Connection := { hosts := [.tcp "b"], user := some "w" }
  have hfirst : Connection.parse? "postgres://u@a/d" = some first := by decide +kernel
  have hsecond : Connection.parse? "host=b user=w" = some second := by decide +kernel
  let s : Settings := {
    host := "b", port := 7000, user := some "w", database := some "e", connection := some second }
  have hbuild : build steps = .ok s := by
    simp only [steps, build, List.foldlM_cons, List.foldlM_nil, apply, withUrl, hfirst, hsecond]
    rfl
  have hlatest : latest Step.connection? steps = some second := by
    simp [steps, latest, List.findSome?_cons, Step.connection?, hsecond]
  have hdecided := latest_step_decides hbuild
  refine ⟨s, hbuild, rfl, rfl, rfl, rfl, hdecided.toldUser, hdecided.toldDatabase,
    hdecided.firstHost (.inl ?_), hdecided.firstPort (.inr ?_)⟩
  · simp [steps, sinceUrl, Step.connection?, Step.host?, hsecond]
  · rintro c hc
    rw [hlatest] at hc
    cases hc
    rfl

/-- A host and a port that are set after a connection string are shown, but the driver is asked for
those of the string. -/
theorem host_after_url_unused :
    ∃ s, build [.url "postgres://a:1/d", .host "b", .port 2] = .ok s ∧
      s.host = "b" ∧ s.toConnection.hosts.head?.map Host.text = some "a" ∧
      s.port = 2 ∧ s.toConnection.ports.head? = some 1 := by
  let c : Connection := { hosts := [.tcp "a"], ports := [1], database := some "d" }
  have hread : Connection.parse? "postgres://a:1/d" = some c := by decide +kernel
  have hbuild : build [.url "postgres://a:1/d", .host "b", .port 2] =
      .ok { host := "b", port := 2, database := some "d", connection := some c } := by
    simp only [build, List.foldlM_cons, List.foldlM_nil, apply, withUrl, hread]
    rfl
  exact ⟨_, hbuild, rfl, rfl, rfl, rfl⟩

end Settings

end CatalogShell
