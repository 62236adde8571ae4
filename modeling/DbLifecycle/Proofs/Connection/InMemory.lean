import DbLifecycle.Proofs.Connection.Credentials
import DbLifecycle.Proofs.Connection.Resolved

/-!
# Databases in memory and their pools

A database in memory lives as long as its connections, so its pool should have exactly one and keep
it. Which databases are in memory is said in two ways, by the name `:memory:` and by a parameter,
and the pool goes by the beginning of the URL alone.

* `Target.NamesMemory`, **`Target.inMemory_iff`**: the URLs that name a database in memory, for the
  driver too.
* `PoolOptions.single`, `PoolOptions.asked`: exactly one connection, and what was asked for.
* `ConnectionSpec.file_or_server`: a connection has the URL of a file or that of a server.
* **`ConnectionSpec.limits_of_resolved`**: the pools that are kept at one connection are those of
  the databases in memory whose URLs have no query.
-/

namespace DbLifecycle

/-! ## Names of databases in memory -/

namespace Target

/-- What follows the scheme in the URL of a file. -/
def body (url : String) : List Char :=
  let cs := dropAll "sqlite://".toList url.toList.length url.toList
  dropAll "sqlite:".toList cs.length cs

/-- The part of a URL that names the database. -/
def databasePart (url : String) : List Char := (body url).takeWhile (· != '?')

/-- The parameters of a URL and their values. -/
def parameters (url : String) : List (String × String) :=
  Url.Query.pairs (((body url).dropWhile (· != '?')).drop 1)

/-- The URL of a file names a database in memory: in place of the file, or by a parameter. -/
def NamesMemory (url : String) : Prop :=
  "sqlite:".toList <+: url.toList ∧
    (databasePart url = ":memory:".toList ∨ ("mode", "memory") ∈ parameters url)

instance (url : String) : Decidable (NamesMemory url) :=
  inferInstanceAs (Decidable (_ ∧ (_ ∨ _)))

variable {t t' : Target}

/-- One parameter puts a database into memory, and none takes it out again. -/
theorem inMemory_of_apply {key value : String} (h : t.apply key value = .ok t') :
    t'.inMemory = true ↔ t.inMemory = true ∨ (key, value) = ("mode", "memory") := by
  unfold apply at h
  dsimp only at h
  split at h
  · split at h <;> cases h <;> simp
  · split at h <;> cases h <;> simp
  · split at h
    · cases h
      simp
    · split at h <;> cases h
      simp
  · cases h
    simp
  · cases h

theorem inMemory_of_foldlM {ps : List (String × String)}
    (h : ps.foldlM (fun t p => t.apply p.1 p.2) t = .ok t') :
    t'.inMemory = true ↔ t.inMemory = true ∨ ("mode", "memory") ∈ ps := by
  induction ps generalizing t with
  | nil =>
    cases h
    simp
  | cons p r ih =>
    rw [List.foldlM_cons] at h
    obtain ⟨u, hu, hr⟩ := bind_eq_ok_iff.mp h
    rw [ih hr, inMemory_of_apply hu, List.mem_cons, or_assoc]
    exact or_congr_right (or_congr_left eq_comm)

/-- **The driver opens in memory what a URL names so**, and nothing else. -/
theorem inMemory_iff {url : String} (h : ofUrl url = .ok t) :
    t.inMemory = true ↔
      databasePart url = ":memory:".toList ∨ ("mode", "memory") ∈ parameters url := by
  unfold ofUrl at h
  dsimp only at h
  split at h
  · rename_i hname
    obtain ⟨start, hstart, hfold⟩ := bind_eq_ok_iff.mp h
    cases hstart
    exact iff_of_true ((inMemory_of_foldlM hfold).mpr (.inl rfl)) (.inl hname)
  · rename_i hname
    split at h
    · obtain ⟨start, hstart, hfold⟩ := bind_eq_ok_iff.mp h
      cases hstart
      rw [inMemory_of_foldlM hfold]
      exact or_congr_left (iff_of_false Bool.false_ne_true hname)
    · cases h

end Target

/-! ## Limits -/

namespace PoolOptions

/-- Exactly one connection, no more and no fewer. Only how long to wait for it can be chosen. -/
def single (s : PoolSettings) : PoolOptions where
  maxConnections := some 1
  minConnections := some 1
  acquireTimeout := s.connectTimeout

/-- What was asked for. -/
def asked (s : PoolSettings) : PoolOptions where
  maxConnections := s.maxConnections
  minConnections := s.minConnections
  idleTimeout := s.idleTimeout
  maxLifetime := some lifetime
  acquireTimeout := s.connectTimeout

theorem ofUrl_of_prefix {url : String} (h : memoryUrl <+: url.toList) (s : PoolSettings) :
    ofUrl url s = single s := if_pos (List.isPrefixOf_iff_prefix.mpr h)

theorem ofUrl_of_not_prefix {url : String} (h : ¬ memoryUrl <+: url.toList) (s : PoolSettings) :
    ofUrl url s = asked s := if_neg (fun hb => h (List.isPrefixOf_iff_prefix.mp hb))

end PoolOptions

/-! ## URLs of connections -/

section PathUrl

variable {path : List Char}

theorem toList_pathUrl (h : path ≠ ":memory:".toList) :
    (pathUrl path).toList = "sqlite://".toList ++ withMode path := by
  rw [pathUrl, if_neg h, String.toList_append]
  exact congrArg _ String.toList_ofList

theorem scheme_prefix_pathUrl (path : List Char) : "sqlite:".toList <+: (pathUrl path).toList := by
  by_cases h : path = ":memory:".toList
  · rw [h]
    decide
  · rw [toList_pathUrl h]
    exact ⟨'/' :: '/' :: withMode path, rfl⟩

/-- Of all paths only one gives a URL that begins like that of a database in memory. -/
theorem memoryUrl_prefix_pathUrl :
    memoryUrl <+: (pathUrl path).toList ↔ path = ":memory:".toList := by
  constructor
  · intro hprefix
    by_contra h
    rw [toList_pathUrl h, ← List.isPrefixOf_iff_prefix] at hprefix
    cases hprefix
  · intro h
    rw [h]
    decide

/-- And only that URL has no query. -/
theorem query_notMem_pathUrl : '?' ∉ (pathUrl path).toList ↔ path = ":memory:".toList := by
  constructor
  · intro hquery
    by_contra h
    rw [toList_pathUrl h] at hquery
    exact hquery (List.mem_append_right _ (mem_withMode path))
  · intro h
    rw [h]
    decide

end PathUrl

/-- What does not begin with the scheme of a file does not begin like its URL. -/
theorem not_file_of_scheme {text : String} {front back : List Char}
    (htext : text.toList = front ++ ':' :: back) (hcolon : ':' ∉ front)
    (hfront : front ≠ "sqlite".toList) : ¬ "sqlite:".toList <+: text.toList := by
  rintro ⟨r, hr⟩
  have hfile : text.toList = "sqlite".toList ++ ':' :: r := hr.symm
  have htake := Url.takeWhile_append_cons (Url.ne_of_notMem hcolon) (d := ':') (by simp) back
  have htake' := Url.takeWhile_append_cons
    (Url.ne_of_notMem (by decide : ':' ∉ "sqlite".toList)) (d := ':') (by simp) r
  rw [← htext, hfile] at htake
  exact hfront (htake.1.symm.trans htake'.1)

theorem Engine.scheme_ne_sqlite {engine : Engine} (h : engine ≠ .sqlite) :
    engine.scheme.toList ≠ "sqlite".toList := by
  cases engine with
  | sqlite => exact absurd rfl h
  | postgres => decide
  | mySql => decide

theorem Engine.colon_notMem_scheme (engine : Engine) : ':' ∉ engine.scheme.toList :=
  fun hmem => absurd (engine.isScheme_scheme.allowed _ hmem) (by decide)

/-- What begins with the scheme of an engine is given to its driver, or to none. -/
theorem driver?_of_scheme {engine : Engine} {text : String} {back : List Char}
    (htext : text.toList = engine.scheme.toList ++ ':' :: back) :
    Link.driver? text = some engine ∨ Link.driver? text = none := by
  unfold Link.driver?
  cases hu : Url.parse text with
  | error e => exact .inr rfl
  | ok u =>
    have hkept : ((engine.scheme.toList.dropWhile Url.isTrimmed).filter
        fun c => !Url.isIgnored c).map Char.toLower = engine.scheme.toList := by
      cases engine <;> decide
    dsimp only
    rw [Url.scheme_of_parse htext engine.colon_notMem_scheme hu, hkept, String.ofList_toList,
      Link.engine?_scheme]
    exact .inl rfl

namespace ConnectionSpec

/-- **A connection has the URL of a file, or that of a server**, which does not begin like that of
a file and is not given to its driver. -/
theorem file_or_server {spec : ConnectionSpec} {url : String} (h : spec.toUrl = .ok url) :
    (∃ path, url = pathUrl path) ∨
      ¬ "sqlite:".toList <+: url.toList ∧ Link.driver? url ≠ some .sqlite := by
  have hfile : ∀ {rest}, fileUrl rest = .ok url → ∃ path, url = pathUrl path := by
    intro rest hrest
    rw [fileUrl_eq] at hrest
    split at hrest
    · cases hrest
    · exact ⟨_, (Except.ok.inj hrest).symm⟩
  cases spec with
  | url text =>
    rw [toUrl] at h
    cases normalized_of_normalizeUrl h with
    | file hrest _ => exact .inl (hfile hrest)
    | @server engine rest u hu htext hname hne =>
      refine .inr ⟨not_file_of_scheme htext ?_ ?_, ?_⟩
      · intro hmem
        have hcolon := List.mem_takeWhile_imp hmem
        simp at hcolon
      · intro hscheme
        rw [engineName, hscheme] at hname
        exact hne (Option.some.inj (hname.symm.trans (by decide)))
      · rw [driver?_of_server hu htext hname]
        split
        · exact fun he => hne (Option.some.inj he)
        · exact fun he => by cases he
  | descriptor d =>
    rw [toUrl, Descriptor.toUrl] at h
    split at h
    case h_1 => cases h
    case h_2 =>
      split at h
      · cases h
      · exact .inl (hfile ((normalizeUrl_path _).symm.trans h))
    case h_3 engine hne hname =>
      obtain ⟨u, hu, rfl⟩ := map_eq_ok_iff.mp h
      obtain ⟨base, number, hbase, -, -, rfl⟩ := Credentials.serverUrl_eq_ok_iff.mp hu
      have hscheme : (d.credentials.putInto number base).scheme = engine.scheme.toList :=
        (Url.formed_of_engine hbase).2
      have htext : (d.credentials.putInto number base).text.toList = Url.chars _ :=
        String.toList_ofList
      rw [Url.chars, hscheme] at htext
      refine .inr ⟨not_file_of_scheme htext engine.colon_notMem_scheme
        (Engine.scheme_ne_sqlite hne), fun hdriver => ?_⟩
      obtain heq | hnone := driver?_of_scheme htext
      · exact hne (Option.some.inj (heq.symm.trans hdriver))
      · cases hnone.symm.trans hdriver

/-- Of the URLs of connections only one begins like that of a database in memory. It has no query,
and every other URL that names a database in memory has one. -/
theorem memoryUrl_prefix_iff {spec : ConnectionSpec} {url : String} (h : spec.toUrl = .ok url) :
    (memoryUrl <+: url.toList ↔ url = "sqlite::memory:") ∧
    (Target.NamesMemory url ∧ '?' ∉ url.toList ↔ url = "sqlite::memory:") := by
  obtain ⟨path, rfl⟩ | ⟨hserver, -⟩ := file_or_server h
  · rw [memoryUrl_prefix_pathUrl, query_notMem_pathUrl, pathUrl_eq_memory_iff]
    refine ⟨Iff.rfl, and_iff_right_of_imp ?_⟩
    rintro rfl
    decide
  · have hother : url ≠ "sqlite::memory:" := by
      rintro rfl
      exact hserver (by decide)
    have hscheme : "sqlite:".toList <+: memoryUrl := by decide
    exact ⟨iff_of_false (fun hmemory => hserver (hscheme.trans hmemory)) hother,
      iff_of_false (fun hmemory => hserver hmemory.1.1) hother⟩

/-- **The limits of a connection's pool.** A connection opens its database with exactly one
connection if its URL names a database in memory and has no query, and else with what was asked
for. There is one such URL, and a connection has it if `:memory:` is what stays of
its path. A database in memory whose URL has a query gets what was asked for, although the driver
opens in memory just what a URL names so. -/
theorem limits_of_resolved (spec : ConnectionSpec) (url : String) (h : spec.toUrl = .ok url) :
    (∀ (driver : Driver) (s : PoolSettings) (d : Disk), driver.openPool url s d =
      driver.connect url
        (if Target.NamesMemory url ∧ '?' ∉ url.toList then .single s else .asked s) d) ∧
    (Target.NamesMemory url ∧ '?' ∉ url.toList ↔ url = "sqlite::memory:") ∧
    (∀ rest, spec.Writes (some rest) →
      (url = "sqlite::memory:" ↔ keptPath rest = ":memory:".toList)) ∧
    ∀ t, Link.driver? url = some .sqlite → Target.ofUrl url = .ok t →
      (t.inMemory = true ↔ Target.NamesMemory url) := by
  obtain ⟨hbegins, honly⟩ := memoryUrl_prefix_iff h
  refine ⟨fun driver s d => ?_, honly, fun rest hwrites => ?_, fun t hdriver ht => ?_⟩
  · rw [Driver.openPool]
    split
    · rename_i hpinned
      rw [PoolOptions.ofUrl_of_prefix (hbegins.mpr (honly.mp hpinned))]
    · rename_i hother
      rw [PoolOptions.ofUrl_of_not_prefix fun hmemory => hother (honly.mpr (hbegins.mp hmemory))]
  · have hfile : fileUrl rest = .ok url := hwrites.toUrl_eq.symm.trans h
    rw [← (namesFile_fileUrl rest).memory_iff, hfile, Except.ok.injEq]
  · obtain ⟨path, rfl⟩ | ⟨-, hserver⟩ := file_or_server h
    · rw [Target.inMemory_iff ht, Target.NamesMemory, and_iff_right (scheme_prefix_pathUrl path)]
    · exact absurd hdriver hserver

/-- A path with further slashes in front, in a descriptor that asks for five connections. -/
theorem limits_of_resolved_memory :
    let d : Descriptor :=
      { engine := "backends.SQLite3"
        credentials := { filePath := some "//:memory:" }
        pool := { maxConnections := some 5, minConnections := some 2, idleTimeout := some 60,
                  connectTimeout := some 5 } }
    (ConnectionSpec.descriptor d).toUrl = .ok "sqlite::memory:" ∧
    (ConnectionSpec.descriptor d).Writes (some "////:memory:".toList) ∧
    Target.ofUrl "sqlite::memory:" = .ok { inMemory := true, shared := true } ∧
    ∀ (driver : Driver) (disk : Disk), driver.openPool "sqlite::memory:" d.pool disk =
      driver.connect "sqlite::memory:"
        { maxConnections := some 1, minConnections := some 1, acquireTimeout := some 5 } disk := by
  intro d
  have hurl : (ConnectionSpec.descriptor d).toUrl = .ok "sqlite::memory:" := by decide
  have hlimits := limits_of_resolved _ _ hurl
  refine ⟨hurl, .descriptor (by decide), by decide, fun driver disk => ?_⟩
  rw [hlimits.1, if_pos (hlimits.2.1.mpr rfl)]
  rfl

/-- A parameter puts a database into memory, and its pool gets what was asked for: here no
connection at all, for which no pool can be made. -/
theorem memory_not_single :
    let d : Descriptor :=
      { engine := "sqlite"
        credentials := { filePath := some "app.db?mode=memory" }
        pool := { maxConnections := some 0 } }
    (ConnectionSpec.descriptor d).toUrl = .ok "sqlite://app.db?mode=memory" ∧
    Target.NamesMemory "sqlite://app.db?mode=memory" ∧
    PoolOptions.ofUrl "sqlite://app.db?mode=memory" d.pool ≠ .single d.pool ∧
    Driver.standard.openPool "sqlite://app.db?mode=memory" d.pool {} =
      .panic "capacity must be non-zero" := by
  decide +kernel

end ConnectionSpec

end DbLifecycle
