import DbLifecycle.Proofs.Connection.Dispatch
import DbLifecycle.Proofs.Url.PathName

/-!
# Credentials in a URL

A server's descriptor makes its URL from that of its host: user, password, port and database each
replace one part of it. No content of a credential changes another part. But what looks like an
escape in a credential is not escaped, so it is read as another text, and a database can be lost
altogether.

* `Credentials.putInto`: the URL of a host with some credentials in their parts.
* `Credentials.serverUrl_eq_ok_iff`: the URL of a server's descriptor, and when there is one.
* `Port.Spells`: the number that a port stands for.
* **`Descriptor.credentials_confined`**: each credential stays in its own part.
* **`Descriptor.userinfo_read`**: what user and password are read as.
* **`Descriptor.database_read`**: the databases that are read as they are; none is rejected.
-/

namespace DbLifecycle

/-! ## Parts of a URL -/

namespace Url

/-- The host, if there is an authority. -/
def host? (u : Url) : Option (List Char) := u.authority.map (·.host)

/-- The user name as it is written; empty if there is none. -/
def username (u : Url) : List Char := u.authority.elim [] (·.username)

/-- The password as it is written; empty if there is none. -/
def password (u : Url) : List Char := u.authority.elim [] (·.password)

/-- The port, if there is one. -/
def port? (u : Url) : Option Nat := u.authority.bind (·.port)

/-- A URL with a host that is not empty. -/
def HasHost (u : Url) : Prop := ∃ a, u.authority = some a ∧ a.host ≠ []

/-- The authority with another user name, if there is one to set. -/
def Authority.withUser (user : Option String) (a : Authority) : Authority :=
  { a with username := user.elim a.username fun s => Percent.encode inUserinfo s.toList }

/-- The authority with another password, if there is one to set. -/
def Authority.withPassword (password : Option String) (a : Authority) : Authority :=
  { a with password := password.elim a.password fun s => Percent.encode inUserinfo s.toList }

/-- The authority with another port, if there is one to set. -/
def Authority.withPort (number : Option Nat) (a : Authority) : Authority :=
  { a with port := number.or a.port }

/-- The URL with another authority. -/
def onAuthority (f : Authority → Authority) (u : Url) : Url :=
  { u with authority := u.authority.map f }

@[simp]
theorem onAuthority_id (u : Url) : u.onAuthority id = u := by simp [onAuthority]

theorem hasHost_onAuthority {f : Authority → Authority} (hf : ∀ a, (f a).host = a.host) {u : Url} :
    (u.onAuthority f).HasHost ↔ u.HasHost := by
  unfold HasHost onAuthority
  cases u.authority with
  | none => simp
  | some a => simp [hf]

theorem withHost?_eq_some_iff {f : Authority → Authority} {u v : Url} :
    u.withHost? f = some v ↔ u.HasHost ∧ v = u.onAuthority f := by
  unfold withHost? HasHost onAuthority
  cases u.authority with
  | none => simp
  | some a =>
    cases ha : a.host with
    | nil => simp [ha]
    | cons c r => simp [ha, eq_comm]

end Url

/-! ## Ports -/

/-- The number that a port stands for. A text is a decimal number: digits after a plus sign or none,
with blanks around it. -/
inductive Port.Spells : Port → Nat → Prop
  | number (n : Nat) : Spells (.number n) n
  | text {s : String} {sign digits : List Char} (written : Text.trim s.toList = sign ++ digits)
      (hsign : sign = [] ∨ sign = ['+']) (hne : digits ≠ [])
      (hdigits : ∀ c ∈ digits, c.isDigit = true) : Spells (.text s) (Text.Integer.ofDigits digits)

/-- A port has the number that it spells and no other. -/
theorem Port.spells_iff {p : Port} {n : Nat} (h : p.number? = .ok n) (m : Nat) :
    p.Spells m ↔ m = n := by
  cases p with
  | number k =>
    cases h
    refine ⟨fun hm => ?_, fun hm => hm ▸ .number n⟩
    cases hm
    rfl
  | text s =>
    rw [number?] at h
    split at h
    case h_2 => cases h
    rename_i k hk
    cases h
    obtain ⟨hle, sign, digits, hs, hsign, hne, hdigits, rfl⟩ :=
      Text.Integer.unsigned?_eq_some_iff.mp hk
    refine ⟨fun hm => ?_, fun hm => hm ▸ .text hs hsign hne hdigits⟩
    cases hm with
    | text hs' hsign' _ hdigits' =>
      rw [← Text.Integer.digits_of_sign hsign hdigits, ← hs, hs',
        Text.Integer.digits_of_sign hsign' hdigits']

/-! ## The URL of a server's descriptor -/

namespace Credentials

open Url

/-- An authority with some credentials in their places. -/
def fill (c : Credentials) (number : Option Nat) (a : Authority) : Authority :=
  ((a.withUser c.user).withPassword c.password).withPort number

/-- The URL of a host with some credentials in their parts. -/
def putInto (c : Credentials) (number : Option Nat) (base : Url) : Url :=
  { base.onAuthority (c.fill number) with
    path := c.database.elim base.path fun s => pathOf s.toList }

section PutInto

variable {c : Credentials} {number : Option Nat} {base : Url} {a : Authority}

theorem username_putInto (h : base.authority = some a) : (c.putInto number base).username =
    c.user.elim a.username fun s => Percent.encode inUserinfo s.toList := by
  unfold putInto onAuthority Url.username
  rw [h]
  rfl

theorem password_putInto (h : base.authority = some a) : (c.putInto number base).password =
    c.password.elim a.password fun s => Percent.encode inUserinfo s.toList := by
  unfold putInto onAuthority Url.password
  rw [h]
  rfl

theorem port?_putInto (h : base.authority = some a) :
    (c.putInto number base).port? = number.or a.port := by
  unfold putInto onAuthority port?
  rw [h]
  rfl

theorem path_putInto :
    (c.putInto number base).path = c.database.elim base.path fun s => pathOf s.toList := rfl

end PutInto

/-- A part that is set where there is a host; `f` says what becomes of the authority. -/
theorem setPart_eq_ok_iff {α : Type} {part : HostPart} {engine : Engine}
    {f : Option α → Authority → Authority} (hnone : f none = id) {value : Option α} {u v : Url} :
    setPart (fun a u => needHost part engine (u.withHost? (f (some a)))) value u = .ok v ↔
      (value.isSome = true → u.HasHost) ∧ v = u.onAuthority (f value) := by
  cases value with
  | none => simp [setPart, hnone, eq_comm]
  | some a =>
    rw [setPart]
    constructor
    · intro h
      obtain ⟨hhost, rfl⟩ := withHost?_eq_some_iff.mp (needHost_eq_ok h)
      exact ⟨fun _ => hhost, rfl⟩
    · rintro ⟨hhost, rfl⟩
      rw [withHost?_eq_some_iff.mpr ⟨hhost rfl, rfl⟩]
      rfl

theorem setPort_eq_ok_iff {engine : Engine} {port : Option Port} {u v : Url} :
    setPart (fun (p : Port) u => do
      let n ← p.number?
      needHost .port engine (u.setPort? n)) port u = .ok v ↔
      ∃ number, Option.Rel (fun p n => p.number? = .ok n) port number ∧
        (port.isSome = true → u.HasHost) ∧
        v = u.onAuthority (Authority.withPort number) := by
  cases port with
  | none =>
    constructor
    · intro h
      cases h
      exact ⟨none, .none, by simp, (onAuthority_id u).symm⟩
    · rintro ⟨number, hnumber, -, rfl⟩
      cases hnumber
      exact congrArg Except.ok (onAuthority_id u).symm
  | some p =>
    rw [setPart, bind_eq_ok_iff]
    constructor
    · rintro ⟨n, hn, h⟩
      obtain ⟨hhost, rfl⟩ := withHost?_eq_some_iff.mp (needHost_eq_ok h)
      exact ⟨some n, .some hn, fun _ => hhost, rfl⟩
    · rintro ⟨number, hnumber, hhost, rfl⟩
      cases hnumber with
      | some hn =>
        refine ⟨_, hn, ?_⟩
        rw [setPort?, withHost?_eq_some_iff.mpr ⟨hhost rfl, rfl⟩]
        rfl

theorem setDatabase_eq_ok_iff {database : Option String} {u v : Url} :
    setPart (fun (s : String) u => .ok (u.setPath s.toList)) database u = .ok v ↔
      v = { u with path := database.elim u.path fun s => pathOf s.toList } := by
  cases database with
  | none => exact ⟨fun h => (Except.ok.inj h).symm, congrArg Except.ok ∘ Eq.symm⟩
  | some s => exact ⟨fun h => (Except.ok.inj h).symm, congrArg Except.ok ∘ Eq.symm⟩

/-- **The URL of a server's descriptor**: that of its host with the credentials in their parts.
There is one if the host can be read, the port is a number, and the host is not empty where a user,
a password or a port is given. -/
theorem serverUrl_eq_ok_iff {c : Credentials} {engine : Engine} {u : Url} :
    c.serverUrl engine = .ok u ↔ ∃ base number,
      parse (engine.scheme ++ "://" ++ c.host.getD "localhost") = .ok base ∧
      Option.Rel (fun p n => p.number? = .ok n) c.port number ∧
      (c.user.isSome = true ∨ c.password.isSome = true ∨ c.port.isSome = true → base.HasHost) ∧
      u = c.putInto number base := by
  -- no step touches the host
  have huser {v : Url} : (v.onAuthority (Authority.withUser c.user)).HasHost ↔ v.HasHost :=
    hasHost_onAuthority (f := Authority.withUser c.user) fun _ => rfl
  have hpassword {v : Url} :
      (v.onAuthority (Authority.withPassword c.password)).HasHost ↔ v.HasHost :=
    hasHost_onAuthority (f := Authority.withPassword c.password) fun _ => rfl
  have hput : ∀ base number, c.putInto number base =
      let v := ((base.onAuthority (Authority.withUser c.user)).onAuthority
        (Authority.withPassword c.password)).onAuthority (Authority.withPort number)
      { v with path := c.database.elim v.path fun s => pathOf s.toList } := by
    intro base number
    unfold putInto onAuthority
    cases base.authority <;> rfl
  unfold serverUrl setUsername? setPassword?
  dsimp only
  cases hbase : parse (engine.scheme ++ "://" ++ c.host.getD "localhost") with
  | error e => exact iff_of_false (fun h => by cases h) (by simp)
  | ok base =>
    constructor
    · intro h
      obtain ⟨_, hok, h⟩ := bind_eq_ok_iff.mp h
      cases hok
      obtain ⟨v₁, hv₁, h⟩ := bind_eq_ok_iff.mp h
      obtain ⟨v₂, hv₂, h⟩ := bind_eq_ok_iff.mp h
      obtain ⟨v₃, hv₃, h⟩ := bind_eq_ok_iff.mp h
      obtain ⟨h₁, rfl⟩ := (setPart_eq_ok_iff (f := Authority.withUser) rfl).mp hv₁
      obtain ⟨h₂, rfl⟩ := (setPart_eq_ok_iff (f := Authority.withPassword) rfl).mp hv₂
      obtain ⟨number, hnumber, h₃, rfl⟩ := setPort_eq_ok_iff.mp hv₃
      rw [huser] at h₂
      rw [hpassword, huser] at h₃
      refine ⟨base, number, rfl, hnumber, ?_, (setDatabase_eq_ok_iff.mp h).trans (hput _ _).symm⟩
      rintro (hset | hset | hset)
      · exact h₁ hset
      · exact h₂ hset
      · exact h₃ hset
    · rintro ⟨_, number, hok, hnumber, hhost, rfl⟩
      cases hok
      refine bind_eq_ok_iff.mpr ⟨base, rfl, ?_⟩
      refine bind_eq_ok_iff.mpr ⟨_, (setPart_eq_ok_iff (f := Authority.withUser) rfl).mpr
        ⟨fun h => hhost (.inl h), rfl⟩, ?_⟩
      refine bind_eq_ok_iff.mpr ⟨_, (setPart_eq_ok_iff (f := Authority.withPassword) rfl).mpr
        ⟨fun h => huser.mpr (hhost (.inr (.inl h))), rfl⟩, ?_⟩
      refine bind_eq_ok_iff.mpr ⟨_, setPort_eq_ok_iff.mpr
        ⟨number, hnumber, fun h => hpassword.mpr (huser.mpr (hhost (.inr (.inr h)))), rfl⟩, ?_⟩
      exact setDatabase_eq_ok_iff.mpr (hput _ _)

/-! ## Each credential in its part -/

/-- Another URL differs from a first one only in the parts that some credentials give, and its port
is the number that they spell. -/
structure Confined (c : Credentials) (base u : Url) : Prop where
  scheme : u.scheme = base.scheme
  host : u.host? = base.host?
  query : u.query = base.query
  fragment : u.fragment = base.fragment
  username : c.user = none → u.username = base.username
  password : c.password = none → u.password = base.password
  port : c.port = none → u.port? = base.port?
  number : ∀ p ∈ c.port, ∃ n, u.port? = some n ∧ ∀ m, p.Spells m ↔ m = n
  path : c.database = none → u.path = base.path

theorem confined_putInto {c : Credentials} {number : Option Nat} {base : Url}
    (hnumber : Option.Rel (fun p n => p.number? = .ok n) c.port number)
    (hhost : c.port.isSome = true → base.HasHost) : c.Confined base (c.putInto number base) where
  scheme := rfl
  host := by
    unfold putInto onAuthority host?
    cases base.authority <;> rfl
  query := rfl
  fragment := rfl
  username h := by
    unfold putInto onAuthority Url.username fill Authority.withUser
    rw [h]
    cases base.authority <;> rfl
  password h := by
    unfold putInto onAuthority Url.password fill Authority.withPassword
    rw [h]
    cases base.authority <;> rfl
  port h := by
    rw [h] at hnumber
    cases hnumber
    unfold putInto onAuthority port?
    cases base.authority <;> rfl
  number p hp := by
    rw [hp] at hnumber hhost
    obtain ⟨a, ha, -⟩ := hhost rfl
    cases hnumber with
    | some hn =>
      exact ⟨_, port?_putInto ha, Port.spells_iff hn⟩
  path h := by
    rw [path_putInto, h]
    rfl

end Credentials

namespace Descriptor

open Credentials

variable {d : Descriptor} {engine : Engine} {url : String}

theorem toUrl_of_server (hengine : Engine.ofName? d.engine = some engine)
    (hserver : engine ≠ .sqlite) : d.toUrl = (d.credentials.serverUrl engine).map Url.text := by
  unfold toUrl
  rw [hengine]
  cases engine with
  | sqlite => exact absurd rfl hserver
  | postgres => rfl
  | mySql => rfl

/-- What the URL of a server's descriptor is read as. -/
theorem parse_toUrl (hsized : (ConnectionSpec.descriptor d).Sized)
    (hengine : Engine.ofName? d.engine = some engine) (hserver : engine ≠ .sqlite)
    (h : d.toUrl = .ok url) : ∃ u, d.credentials.serverUrl engine = .ok u ∧
      Url.parse url = .ok u := by
  rw [toUrl_of_server hengine hserver] at h
  obtain ⟨u, hu, rfl⟩ := map_eq_ok_iff.mp h
  exact ⟨u, hu, Url.parse_text (formed_of_serverUrl hsized hu).1⟩

/-- **Each credential stays in its own part.** The URL of a server's descriptor is read with the
scheme, host, query and fragment of the URL of its host, and with its user name, password, port and
path where the descriptor gives none. A port is the number that is spelled. -/
theorem credentials_confined (hsized : (ConnectionSpec.descriptor d).Sized)
    (hengine : Engine.ofName? d.engine = some engine) (hserver : engine ≠ .sqlite)
    (h : d.toUrl = .ok url) : ∃ base u,
      Url.parse (engine.scheme ++ "://" ++ d.credentials.host.getD "localhost") = .ok base ∧
      Url.parse url = .ok u ∧ d.credentials.Confined base u := by
  obtain ⟨u, hu, hread⟩ := parse_toUrl hsized hengine hserver h
  obtain ⟨base, number, hbase, hnumber, hhost, rfl⟩ := serverUrl_eq_ok_iff.mp hu
  exact ⟨base, _, hbase, hread, confined_putInto hnumber fun h => hhost (.inr (.inr h))⟩

/-- Credentials full of marks, at a host that is written with a path and a query. -/
theorem credentials_confined_marks : ∃ base u, Url.parse "postgres://db/a?q" = .ok base ∧
    Url.parse "postgres://u%40x:p%2F%3Aq%3F%23@db:5432/a?q" = .ok u ∧
    Credentials.Confined { host := some "db/a?q", port := some (.text " +5432"), user := some "u@x",
                           password := some "p/:q?#" } base u := by
  let d : Descriptor :=
    { engine := "asyncpg"
      credentials := { host := some "db/a?q", port := some (.text " +5432"), user := some "u@x",
                       password := some "p/:q?#" } }
  have hsized : (ConnectionSpec.descriptor d).Sized := fun p hp => by
    cases Option.some.inj hp
    trivial
  have hengine : Engine.ofName? d.engine = some .postgres := by decide
  exact credentials_confined hsized hengine (by decide) (by decide)

/-! ## Reading the credentials back -/

/-- What a text is read as, from what is written for it: the bytes that its own escapes give. Only a
text without escapes comes back. -/
structure ReadAs (written : List Char) (text : String) : Prop where
  bytes : Percent.decodeBytes written = Percent.decodeBytes text.toList
  same_iff : Percent.decode written = .ok text ↔ ¬ Percent.HasEscape text.toList

theorem readAs_encode (text : String) :
    ReadAs (Percent.encode Url.inUserinfo text.toList) text where
  bytes := Percent.decodeBytes_encode_of_spares Url.spares_inUserinfo _
  same_iff := Percent.decode_encode_eq_ok_iff Url.spares_inUserinfo text

/-- **What user and password are read as.** The URL of a server's descriptor gives back a user and a
password exactly if these hold no escapes; an escape in one of them is not escaped itself, so it is
read as the character that it stands for. -/
theorem userinfo_read (hsized : (ConnectionSpec.descriptor d).Sized)
    (hengine : Engine.ofName? d.engine = some engine) (hserver : engine ≠ .sqlite)
    (h : d.toUrl = .ok url) : ∃ u, Url.parse url = .ok u ∧
      (∀ user ∈ d.credentials.user, ReadAs u.username user) ∧
      ∀ password ∈ d.credentials.password, ReadAs u.password password := by
  obtain ⟨u, hu, hread⟩ := parse_toUrl hsized hengine hserver h
  obtain ⟨base, number, -, -, hhost, rfl⟩ := serverUrl_eq_ok_iff.mp hu
  refine ⟨_, hread, fun user huser => ?_, fun password hpassword => ?_⟩
  · obtain ⟨a, ha, -⟩ := hhost (.inl (by rw [huser]; rfl))
    rw [username_putInto ha, huser]
    exact readAs_encode user
  · obtain ⟨a, ha, -⟩ := hhost (.inr (.inl (by rw [hpassword]; rfl)))
    rw [password_putInto ha, hpassword]
    exact readAs_encode password

/-- A user that comes back and a password that does not. -/
theorem userinfo_read_escape : ∃ u, Url.parse "postgres://u%2Fv:p%40ss@db" = .ok u ∧
    ReadAs u.username "u/v" ∧ ReadAs u.password "p%40ss" := by
  let d : Descriptor :=
    { engine := "postgres"
      credentials := { host := some "db", user := some "u/v", password := some "p%40ss" } }
  have hsized : (ConnectionSpec.descriptor d).Sized := fun p hp => by cases hp
  have hengine : Engine.ofName? d.engine = some .postgres := by decide
  have hurl : d.toUrl = .ok "postgres://u%2Fv:p%40ss@db" := by decide
  obtain ⟨u, hu, huser, hpassword⟩ := userinfo_read hsized hengine (by decide) hurl
  exact ⟨u, hu, huser _ rfl, hpassword _ rfl⟩

/-- A password that is read as another one. -/
theorem password_changed :
    toUrl { engine := "postgres",
            credentials := { host := some "db", user := some "u", password := some "p%40ss" } } =
      .ok "postgres://u:p%40ss@db" ∧
    ∃ u, Url.parse "postgres://u:p%40ss@db" = .ok u ∧ Percent.decode u.password = .ok "p@ss" := by
  refine ⟨by decide, ⟨"postgres".toList, some ⟨['u'], "p%40ss".toList, ['d', 'b'], none⟩,
    .rooted [], none, none⟩, by decide, by decide⟩

/-- **The databases that are read as they are.** A database that is not empty and begins with no
slash is read from the URL of a server's descriptor as it is exactly if it goes through the reading
of paths as it is. The others are changed or lost, and none is rejected: whatever replaces a
database, there is a URL. -/
theorem database_read (hsized : (ConnectionSpec.descriptor d).Sized)
    (hengine : Engine.ofName? d.engine = some engine) (hserver : engine ≠ .sqlite)
    (h : d.toUrl = .ok url) {name : String} (hname : d.credentials.database = some name)
    (hne : name ≠ "") (hslash : name.toList.head? ≠ some '/') :
    (∃ u, Url.parse url = .ok u ∧
      (Percent.decode (u.path.chars.drop 1) = .ok name ↔ Url.KeptInPath name.toList)) ∧
    ∀ other, ∃ url', toUrl { d with credentials := { d.credentials with database := other } } =
      .ok url' := by
  obtain ⟨u, hu, hread⟩ := parse_toUrl hsized hengine hserver h
  obtain ⟨base, number, hbase, hnumber, hhost, rfl⟩ := serverUrl_eq_ok_iff.mp hu
  refine ⟨⟨_, hread, ?_⟩, fun other => ?_⟩
  · rw [path_putInto, hname]
    exact Url.decode_pathOf_eq_ok_iff hne hslash
  · have hother := serverUrl_eq_ok_iff (c := { d.credentials with database := other }).mpr
      ⟨base, number, hbase, hnumber, hhost, rfl⟩
    rw [toUrl_of_server (d := { d with credentials := { d.credentials with database := other } })
      hengine hserver, hother]
    exact ⟨_, rfl⟩

/-- A name with a blank and a slash in it is read as it is. -/
theorem database_read_slash :
    (∃ u, Url.parse "postgres://db/my%20app/main" = .ok u ∧
      Percent.decode (u.path.chars.drop 1) = .ok "my app/main") ∧
    ∀ other, ∃ url',
      toUrl { engine := "postgres", credentials := { host := some "db", database := other } } =
        .ok url' := by
  let d : Descriptor :=
    { engine := "postgres", credentials := { host := some "db", database := some "my app/main" } }
  have hsized : (ConnectionSpec.descriptor d).Sized := fun p hp => by cases hp
  have hengine : Engine.ofName? d.engine = some .postgres := by decide
  have hurl : d.toUrl = .ok "postgres://db/my%20app/main" := by decide
  have hkept : Url.KeptInPath "my app/main".toList :=
    ⟨by simp [Url.isIgnored], by decide, by decide, Percent.not_hasEscape_of_notMem (by decide)⟩
  obtain ⟨⟨u, hu, hiff⟩, hother⟩ :=
    database_read hsized hengine (by decide) hurl rfl (by decide) (by decide)
  exact ⟨⟨u, hu, hiff.mpr hkept⟩, hother⟩

/-- Databases that are lost, or read as others. -/
theorem database_changed :
    (toUrl { engine := "postgres",
             credentials := { host := some "db", database := some "?events" } } =
        .ok "postgres://db" ∧
      ∃ u, Url.parse "postgres://db" = .ok u ∧ Percent.decode (u.path.chars.drop 1) = .ok "") ∧
    toUrl { engine := "postgres",
            credentials := { host := some "db", database := some "a%20b" } } =
        .ok "postgres://db/a%20b" ∧
      ∃ u, Url.parse "postgres://db/a%20b" = .ok u ∧
        Percent.decode (u.path.chars.drop 1) = .ok "a b" := by
  let u (segments : List (List Char)) : Url :=
    ⟨"postgres".toList, some ⟨[], [], ['d', 'b'], none⟩, .rooted segments, none, none⟩
  exact ⟨⟨by decide, u [], by decide, by decide⟩,
    by decide, u ["a%20b".toList], by decide, by decide⟩

end Descriptor

end DbLifecycle
