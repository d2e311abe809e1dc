import CatalogShell.Proofs.Text.Utf8
import CatalogShell.Settings.Basic

/-!
# What the driver is told

A connection string is laid over settings, and the connection that the driver is asked for is made
from the result. `Settings.Carries` says what of the string and of the settings arrives there.

All that a string names does, but for one thing: the password passes through a text, so its bytes
arrive as they are exactly if they are the UTF-8 form of a text
(`Settings.withUrl_carries`). Every string of keywords names such a password
(`Connection.passwordIsText_of_keywords`); a URL can name others, as its credentials are
percent-encoded bytes (`Settings.password_replaced`).
-/

namespace CatalogShell

open Text (Utf8.encode Utf8.decodeLossy)

/-! ## Passwords that are texts -/

namespace Connection

/-- A password that the connection names is the UTF-8 form of a text. -/
def PasswordIsText (c : Connection) : Prop :=
  ∀ bytes, c.password = some bytes → ∃ text, Utf8.encode text = bytes

theorem password_addAll {α : Type} {read : String → Option α} {add : Connection → α → Connection}
    {c c' : Connection} {items : String} (h : addAll read add c items = some c')
    (hadd : ∀ c a, (add c a).password = c.password) : c'.password = c.password := by
  unfold addAll at h
  generalize Text.split ',' items = texts at h
  induction texts generalizing c with
  | nil =>
    obtain rfl : c = c' := by simpa using h
    rfl
  | cons text texts ih =>
    rw [List.foldlM_cons] at h
    obtain ⟨next, hnext, hrest⟩ := Option.bind_eq_some_iff.1 h
    obtain ⟨a, -, rfl⟩ := Option.map_eq_some_iff.1 hnext
    rw [ih hrest, hadd]

/-- A parameter leaves the password as it is, or replaces it by a text. -/
theorem password_set? {c c' : Connection} {key value : String} (h : c.set? key value = some c') :
    c'.password = c.password ∨ c'.password = some (Utf8.encode value) := by
  unfold set? at h
  split at h
  case h_2 =>
    cases h
    exact .inr rfl
  case h_8 => exact .inl (password_addAll h fun _ _ => rfl)
  case h_9 => exact .inl (password_addAll h fun _ _ => rfl)
  case h_10 => exact .inl (password_addAll h fun _ _ => rfl)
  all_goals simp only [Option.map_eq_some_iff, Option.some.injEq, reduceCtorEq] at h
  all_goals grind

theorem PasswordIsText.set? {c c' : Connection} {key value : String} (hc : c.PasswordIsText)
    (h : c.set? key value = some c') : c'.PasswordIsText := by
  intro bytes hbytes
  rcases password_set? h with hsame | htext
  · exact hc bytes (hsame ▸ hbytes)
  · rw [htext, Option.some.injEq] at hbytes
    exact ⟨value, hbytes⟩

/-- A string of keywords names a password as a text. -/
theorem passwordIsText_of_keywords {cs : List Char} {c : Connection}
    (h : Keywords.parse? cs = some c) : c.PasswordIsText := by
  obtain ⟨pairs, -, hfold⟩ := Option.bind_eq_some_iff.1 h
  have hstart : ({} : Connection).PasswordIsText := by
    intro bytes hbytes
    cases hbytes
  generalize ({} : Connection) = start at hstart hfold
  induction pairs generalizing start with
  | nil =>
    obtain rfl : start = c := by simpa using hfold
    exact hstart
  | cons pair pairs ih =>
    rw [List.foldlM_cons] at hfold
    obtain ⟨next, hnext, hrest⟩ := Option.bind_eq_some_iff.1 hfold
    exact ih next (hstart.set? hnext) hrest

end Connection

/-! ## Settings and connection -/

namespace Settings

/-- What the driver is told, `d`, by settings `s` over which a connection `c` is laid. -/
structure Carries (s : Settings) (c d : Connection) : Prop where
  /-- The hosts that are named, else that of the settings. -/
  hosts : d.hosts = if c.hosts = [] then [.ofText s.host] else c.hosts
  ports : d.ports = if c.ports = [] then [s.port] else c.ports
  user : d.user = (c.user <|> s.user)
  database : d.database = (c.database <|> s.database)
  /-- The shell has a name of its own. -/
  applicationName : d.applicationName = (c.applicationName <|> some "pgmeta")
  /-- No password is named, and the driver is told that of the settings. -/
  ownPassword : c.password = none → d.password = s.password.map Utf8.encode
  /-- Bytes of a password that are no text are replaced. -/
  namedPassword : ∀ bytes, c.password = some bytes →
    d.password = some (Utf8.encode (Utf8.decodeLossy bytes))
  /-- So the driver is told the bytes that are named exactly if they are a text. -/
  exactPassword : ∀ bytes, c.password = some bytes →
    (d.password = some bytes ↔ ∃ text, Utf8.encode text = bytes)

variable (s : Settings) (c : Connection)

theorem toConnection_password {bytes : Bytes} (h : c.password = some bytes) :
    (s.overlay c).toConnection.password = some (Utf8.encode (Utf8.decodeLossy bytes)) := by
  simp [toConnection, overlay, h]

/-- Bytes go through a text and back unchanged if they were made from one. -/
theorem encode_decodeLossy_eq_iff (bytes : Bytes) :
    Utf8.encode (Utf8.decodeLossy bytes) = bytes ↔ ∃ text, Utf8.encode text = bytes := by
  constructor
  · intro h
    exact ⟨_, h⟩
  · rintro ⟨text, rfl⟩
    rw [Text.Utf8.decodeLossy_encode]

theorem carries_overlay : Carries s c (s.overlay c).toConnection where
  hosts := by cases hc : c.hosts <;> simp [toConnection, overlay, hc]
  ports := by cases hc : c.ports <;> simp [toConnection, overlay, hc]
  user := by cases hc : c.user <;> cases hs : s.user <;> simp [toConnection, overlay, hc, hs]
  database := by
    cases hc : c.database <;> cases hs : s.database <;> simp [toConnection, overlay, hc, hs]
  applicationName := rfl
  ownPassword h := by cases hs : s.password <;> simp [toConnection, overlay, h, hs]
  namedPassword bytes h := toConnection_password s c h
  exactPassword bytes h := by
    rw [toConnection_password s c h, Option.some.injEq, encode_decodeLossy_eq_iff]

/-- A connection string that can be read can be laid over any settings. The driver is then told the
hosts, ports, role, database and application name that the string names, and those of the settings
where it names none. The password that it names arrives byte for byte exactly if its bytes are the
UTF-8 form of a text, as they are whenever the string is no URL. -/
theorem withUrl_carries (s : Settings) {url : String} {c : Connection}
    (h : Connection.parse? url = some c) :
    ∃ s', s.withUrl url = .ok s' ∧ Carries s c s'.toConnection ∧
      (dropScheme? url = none → c.PasswordIsText) := by
  refine ⟨s.overlay c, ?_, carries_overlay s c, fun hurl => ?_⟩
  · rw [withUrl, h]
  · rw [Connection.parse?, hurl] at h
    exact Connection.passwordIsText_of_keywords h

theorem withUrl_carries_ports :
    Connection.parse? "postgres://:p%C3%A9@a,b:/sales" = some {
        hosts := [.tcp "a", .tcp "b"], ports := [5432, 5432], user := some ""
        password := some [0x70, 0xC3, 0xA9], database := some "sales" } ∧
      ∃ s', ({ port := 6000, user := some "file" } : Settings).withUrl
          "postgres://:p%C3%A9@a,b:/sales" = .ok s' ∧
        s'.toConnection.hosts = [.tcp "a", .tcp "b"] ∧ s'.toConnection.ports = [5432, 5432] ∧
        s'.toConnection.user = some "" ∧ s'.toConnection.database = some "sales" ∧
        s'.toConnection.applicationName = some "pgmeta" ∧
        s'.toConnection.password = some (Utf8.encode "pé") := by
  have hread : Connection.parse? "postgres://:p%C3%A9@a,b:/sales" = some {
      hosts := [.tcp "a", .tcp "b"], ports := [5432, 5432], user := some ""
      password := some [0x70, 0xC3, 0xA9], database := some "sales" } := by decide +kernel
  obtain ⟨s', hs', hcarries, -⟩ :=
    withUrl_carries { port := 6000, user := some "file" } hread
  exact ⟨hread, s', hs', hcarries.hosts, hcarries.ports, hcarries.user, hcarries.database,
    hcarries.applicationName, (hcarries.exactPassword _ rfl).2 ⟨"pé", by decide⟩⟩

/-- The byte that the credentials name is no text, and the driver is told another password. -/
theorem password_replaced :
    (Connection.parse? "postgres://u:%FF@h/d").bind (·.password) = some [0xFF] ∧
      (({} : Settings).withUrl "postgres://u:%FF@h/d").map (·.toConnection.password) =
        .ok (some [0xEF, 0xBF, 0xBD]) := by
  have hread : Connection.parse? "postgres://u:%FF@h/d" = some {
      hosts := [.tcp "h"], ports := [5432], user := some "u", password := some [0xFF]
      database := some "d" } := by decide +kernel
  have htold : Utf8.encode (Utf8.decodeLossy [0xFF]) = [0xEF, 0xBF, 0xBD] := by decide +kernel
  rw [withUrl, hread]
  refine ⟨rfl, congrArg Except.ok ?_⟩
  exact (toConnection_password _ _ rfl).trans (congrArg some htold)

end Settings

end CatalogShell
