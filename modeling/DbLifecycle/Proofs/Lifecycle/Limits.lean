import DbLifecycle.Proofs.Lifecycle.History
import DbLifecycle.Proofs.Lifecycle.Stages

/-!
# Limits that no pool can have

A configuration is checked for connections, apps and URLs, but not for the limits of its pools.
They are first looked at when a pool is made, and where they are impossible that is a panic: the
start stops where it is, with all connections open that come before.

* `PoolOptions.Feasible`, `PoolOptions.panics?_eq_none_iff`: limits that a pool can be made with.
* `Driver.Guarded`: a driver that panics only over limits that are not.
* `Life.Start.settled`: a start that does not panic ends unstarted or ready.
* **`Life.init_within_limits`**: within feasible limits no start panics, and beyond them it panics
  at the first such connection that is reached.
-/

namespace DbLifecycle

/-! ## Feasible limits -/

namespace PoolOptions

/-- A pool can be made with these limits: it has room for a connection, and its deadlines lie before
the end of time. -/
structure Feasible (o : PoolOptions) : Prop where
  timely : clockReading + o.acquireTimeout.getD 0 ≤ lastSecond
  roomy : o.maxConnections ≠ some 0

theorem panics?_eq_none_iff (o : PoolOptions) : o.panics? = none ↔ o.Feasible := by
  unfold panics?
  constructor
  · intro h
    split at h
    · cases h
    · split at h
      · cases h
      · exact ⟨by omega, ‹_›⟩
  · intro h
    rw [if_neg (Nat.not_lt.mpr h.timely), if_neg h.roomy]

instance (o : PoolOptions) : Decidable o.Feasible :=
  decidable_of_iff (o.panics? = none) o.panics?_eq_none_iff

/-- The pool of a database in memory always has room for its one connection; any other has the room
it is given. -/
theorem feasible_ofUrl_iff (url : String) (s : PoolSettings) :
    (ofUrl url s).Feasible ↔
      clockReading + s.connectTimeout.getD 0 ≤ lastSecond ∧
        (memoryUrl.isPrefixOf url.toList = true ∨ s.maxConnections ≠ some 0) := by
  unfold ofUrl
  split
  · rename_i hmemory
    exact ⟨fun h => ⟨h.timely, .inl hmemory⟩, fun h => ⟨h.1, by simp⟩⟩
  · rename_i hmemory
    exact ⟨fun h => ⟨h.timely, .inr h.roomy⟩, fun h => ⟨h.1, h.2.resolve_left hmemory⟩⟩

end PoolOptions

/-- The limits of a connection's pool are feasible. -/
def World.Request.Feasible (q : World.Request) : Prop :=
  (PoolOptions.ofUrl q.url q.settings).Feasible

instance (q : World.Request) : Decidable q.Feasible :=
  inferInstanceAs (Decidable (PoolOptions.ofUrl q.url q.settings).Feasible)

/-- No connection of a configuration has a deadline beyond the end of time, and only databases in
memory have no room. -/
def Config.Feasible (c : Config) : Prop :=
  ∀ a ∈ c.connections.entries, ∀ url, a.2.toUrl = .ok url →
    clockReading + a.2.pool.connectTimeout.getD 0 ≤ lastSecond ∧
      (memoryUrl.isPrefixOf url.toList = true ∨ a.2.pool.maxConnections ≠ some 0)

/-! ## Drivers -/

/-- A driver that panics only over limits that no pool can have. -/
def Driver.Guarded (driver : Driver) : Prop :=
  ∀ url (o : PoolOptions) d, o.Feasible → (driver.connect url o d).isPanic = false

namespace Link

/-- There is an engine for the URL, and it can read it. -/
inductive Readable (url : String) : Prop
  | file {u : Url} {t : Target} (hu : Url.parse url = .ok u)
      (he : engine? (String.ofList u.scheme) = some .sqlite) (ht : Target.ofUrl url = .ok t)
  | server {u : Url} {engine : Engine} {o : ServerOptions} (hu : Url.parse url = .ok u)
      (he : engine? (String.ofList u.scheme) = some engine) (hne : engine ≠ .sqlite)
      (ho : ServerOptions.ofUrl engine u = .ok o)

/-- The limits come first, whatever the file. -/
theorem openTarget_eq_panic_iff {o : PoolOptions} {t : Target} {d : Disk} {text : String} :
    openTarget o t d = .panic text ↔ o.panics? = some text := by
  unfold openTarget
  cases o.panics? with
  | some s => simp
  | none => grind

/-- The limits come first, whatever the server. -/
theorem openServer_eq_panic_iff {o : PoolOptions} {s : ServerOptions} {text : String} :
    openServer o s = .panic text ↔ o.panics? = some text := by
  unfold openServer
  cases o.panics? with
  | some s => simp
  | none => grind

/-- **Opening panics exactly over the limits of a URL that can be read.** -/
theorem open?_eq_panic_iff (url : String) (o : PoolOptions) (d : Disk) (text : String) :
    open? url o d = .panic text ↔ Readable url ∧ o.panics? = some text := by
  constructor
  · intro h
    unfold open? at h
    split at h
    · cases h
    · rename_i u hu
      split at h
      · cases h
      · rename_i he
        split at h
        · cases h
        · rename_i t ht
          exact ⟨.file hu he ht, openTarget_eq_panic_iff.mp h⟩
      · rename_i engine hne he
        split at h
        · cases h
        · rename_i s hs
          exact ⟨.server hu he hne hs, openServer_eq_panic_iff.mp h⟩
  · rintro ⟨hread, ho⟩
    cases hread with
    | @file u t hu he ht =>
      simp only [open?, hu, he, ht]
      exact openTarget_eq_panic_iff.mpr ho
    | @server u engine s hu he hne hs =>
      cases engine with
      | sqlite => exact absurd rfl hne
      | postgres =>
        simp only [open?, hu, he, hs]
        exact openServer_eq_panic_iff.mpr ho
      | mySql =>
        simp only [open?, hu, he, hs]
        exact openServer_eq_panic_iff.mpr ho

end Link

theorem Driver.standard_guarded : Driver.standard.Guarded := by
  intro url o d ho
  cases h : Driver.standard.connect url o d with
  | ok opened => rfl
  | error e => rfl
  | panic text =>
    have hpanic := ((Link.open?_eq_panic_iff url o d text).mp h).2
    rw [o.panics?_eq_none_iff.mpr ho] at hpanic
    cases hpanic

/-! ## Opening -/

namespace World

/-- The connections that a configuration asks for have the limits that it gives them. -/
theorem feasible_of_requests {c : Config} {qs : List Request} (h : requests c = .ok qs) :
    c.Feasible ↔ ∀ q ∈ qs, q.Feasible := by
  have hall : List.Forall₂ (fun a q => (∀ url, a.2.toUrl = .ok url →
      clockReading + a.2.pool.connectTimeout.getD 0 ≤ lastSecond ∧
        (memoryUrl.isPrefixOf url.toList = true ∨ a.2.pool.maxConnections ≠ some 0)) ↔
      q.Feasible) c.connections.entries qs := by
    refine (mapM_eq_ok_iff.mp h).imp fun a q hq => ?_
    obtain ⟨url, hurl, hrequest⟩ := map_eq_ok_iff.mp hq
    rw [← hrequest, World.Request.Feasible, PoolOptions.feasible_ofUrl_iff]
    exact ⟨fun hf => hf url hurl,
      fun hf url' hurl' => Except.ok.inj (hurl.symm.trans hurl') ▸ hf⟩
  unfold Config.Feasible
  clear h
  generalize c.connections.entries = entries at hall ⊢
  induction hall with
  | nil => simp
  | cons hq _ ih =>
    rw [List.forall_mem_cons, List.forall_mem_cons]
    exact and_congr hq ih

/-- Opening feasible connections does not panic, whatever is open already. -/
theorem openAll_isPanic_of_feasible {driver : Driver} (hd : driver.Guarded) {c : Config}
    (hc : c.Feasible) (w : World) : (w.openAll driver c).1.isPanic = false := by
  unfold openAll
  cases hqs : requests c with
  | error e => rfl
  | ok qs =>
    have hopen := openEach_opening driver [] w qs
    dsimp only
    generalize w.openEach driver [] qs = end_ at hopen ⊢
    cases hopen with
    | opened _ => rfl
    | refused _ _ _ => rfl
    | @panicked pre post q v text hsplit _ hq =>
      have hfeasible := (feasible_of_requests hqs).mp hc q (by rw [hsplit]; simp)
      have hnp := hd q.url (.ofUrl q.url q.settings) v.disk hfeasible
      rw [show driver.connect q.url (.ofUrl q.url q.settings) v.disk = .panic text from hq] at hnp
      cases hnp

/-- The panic of opening is that of the first connection beyond its limits, and what was opened
before it stays open. -/
theorem openAll_eq_panic_iff {c : Config} {w v : World} {text : String} :
    w.openAll .standard c = (.panic text, v) ↔
      ∃ pre q post, requests c = .ok (pre ++ q :: post) ∧ Opens .standard w pre v ∧
        Link.Readable q.url ∧ (PoolOptions.ofUrl q.url q.settings).panics? = some text := by
  constructor
  · intro h
    unfold openAll at h
    cases hqs : requests c with
    | error e =>
      rw [hqs] at h
      cases h
    | ok qs =>
      rw [hqs] at h
      dsimp only at h
      have hopen := openEach_opening .standard [] w qs
      rw [h] at hopen
      cases hopen with
      | panicked hsplit hv hq =>
        exact ⟨_, _, _, by rw [hsplit], hv, (Link.open?_eq_panic_iff _ _ _ _).mp hq⟩
  · rintro ⟨pre, q, post, hqs, hv, hq⟩
    have hpanic : Driver.standard.openPool q.url q.settings v.disk = .panic text :=
      (Link.open?_eq_panic_iff _ _ _ _).mpr hq
    have hall := hv.openEach [] (q :: post)
    rw [World.openEach, hpanic] at hall
    rw [openAll, hqs]
    exact hall

end World

namespace Life

open World

/-! ## Starting -/

/-- Within feasible limits no start gets stuck half way. -/
theorem Start.settled {driver : Driver} (hd : driver.Guarded) {catalog : Catalog} {o : Options}
    {w : World} {outcome : Outcome Error Unit} {l : Life World}
    (h : Start driver catalog o w (outcome, l))
    (hc : ∀ c, o.load w.disk.text? = .ok c → c.Feasible) :
    outcome.isPanic = false ∧ (l.state = .unstarted ∨ l.state = .ready) := by
  cases h with
  | unloaded _ => exact ⟨rfl, .inl rfl⟩
  | unmodelled _ _ => exact ⟨rfl, .inl rfl⟩
  | refused _ _ _ _ => exact ⟨rfl, .inl rfl⟩
  | @panicked c qs pre post q v text ha hqs hv hq =>
    have hfeasible := (feasible_of_requests ha.requested).mp (hc c ha.loaded) q (by rw [hqs]; simp)
    have hnp := hd q.url (.ofUrl q.url q.settings) v.disk hfeasible
    rw [show driver.connect q.url (.ofUrl q.url q.settings) v.disk = .panic text from hq] at hnp
    cases hnp
  | uncreated _ _ _ _ _ _ _ _ _ => exact ⟨rfl, .inl rfl⟩
  | ready _ _ _ _ => exact ⟨rfl, .inr rfl⟩

/-- A start panics with the standard driver exactly where opening does. -/
theorem init_eq_panic_iff {catalog : Catalog} {o : Options} {w : World} {text : String}
    {l : Life World} :
    init (resources .standard catalog) o ⟨.unstarted, w⟩ = (.panic text, l) ↔
      ∃ c qs, Accepted catalog o w c qs ∧ w.openAll .standard c = (.panic text, l.world) ∧
        l.state = .initializing := by
  constructor
  · intro h
    have hstart := init_start .standard catalog o w
    rw [h] at hstart
    cases hstart with
    | panicked ha hqs hv hq =>
      exact ⟨_, _, ha, openAll_eq_panic_iff.mpr ⟨_, _, _, by rw [ha.requested, hqs], hv,
        (Link.open?_eq_panic_iff _ _ _ _).mp hq⟩, rfl⟩
  · rintro ⟨c, qs, ha, hopen, hstate⟩
    rw [init_valid (r := resources .standard catalog) ha.loaded
      (validate_resources _ ha.modelled), openConfig, resources_openAll, hopen]
    cases l
    cases hstate
    rfl

theorem registerHandlers_isPanic {σ : Type} (r : Resources σ) (host : Host) (l : Life σ) :
    (registerHandlers r host l).1.isPanic = false := by
  unfold registerHandlers
  split <;> rfl

theorem close_isPanic (driver : Driver) (catalog : Catalog) (l : Life World) :
    (close (resources driver catalog) l).1.isPanic = false := by
  unfold close
  split
  · have hclosed := closeAliases_isPanic driver l.world l.world.aliases
    rw [resources_closeAll, closeAll]
    split
    · rfl
    · rfl
    · rename_i text v hv
      rw [hv] at hclosed
      cases hclosed
  · rfl

/-- Within feasible limits no call panics: all but a start never do. -/
theorem perform_isPanic_of_feasible {driver : Driver} (hd : driver.Guarded) (catalog : Catalog)
    {o : Options} {l : Life World} (hc : ∀ c, o.load l.world.disk.text? = .ok c → c.Feasible)
    (call : Call) (host : Host) :
    (perform (resources driver catalog) o call host l).1.isPanic = false := by
  have hinit : (init (resources driver catalog) o l).1.isPanic = false := by
    by_cases hstate : l.state = .unstarted
    · obtain ⟨state, w⟩ := l
      obtain rfl : state = .unstarted := hstate
      exact ((init_start driver catalog o w).settled hd hc).1
    · rw [init_of_not_unstarted hstate]
      rfl
  cases call with
  | init => exact hinit
  | activate =>
    rw [perform]
    by_cases hok : (init (resources driver catalog) o l).1 = .ok ()
    · rw [activate_of_init_ok host (Prod.ext hok rfl)]
      split
      · exact registerHandlers_isPanic _ _ _
      · rfl
    · rw [activate_of_init_ne_ok host hok]
      exact hinit
  | close => exact close_isPanic driver catalog l
  | registerHandlers => exact registerHandlers_isPanic _ _ _

/-- **Only limits that no pool can have make a start panic.** Whatever the driver answers, as long
as it panics only over such limits, a configuration without them is opened or refused, and its start
ends unstarted or ready. With the standard driver a start panics exactly at a connection with such
limits, whose URL can be read and before which all connections were opened. It leaves the
coordinator initializing, and what was opened stays open. -/
theorem init_within_limits (driver : Driver) (hd : driver.Guarded) (catalog : Catalog) (o : Options)
    (w : World) :
    (∀ c : Config, c.Feasible → (w.openAll driver c).1.isPanic = false) ∧
    ((∀ c, o.load w.disk.text? = .ok c → c.Feasible) →
      (init (resources driver catalog) o ⟨.unstarted, w⟩).1.isPanic = false ∧
      ((init (resources driver catalog) o ⟨.unstarted, w⟩).2.state = .unstarted ∨
        (init (resources driver catalog) o ⟨.unstarted, w⟩).2.state = .ready)) ∧
    ∀ text l, init (resources .standard catalog) o ⟨.unstarted, w⟩ = (.panic text, l) ↔
      l.state = .initializing ∧ ∃ c pre q post, Accepted catalog o w c (pre ++ q :: post) ∧
        Opens .standard w pre l.world ∧ Link.Readable q.url ∧
        (PoolOptions.ofUrl q.url q.settings).panics? = some text := by
  refine ⟨fun c hc => openAll_isPanic_of_feasible hd hc w,
    fun hc => (init_start driver catalog o w).settled hd hc, fun text l => ?_⟩
  rw [init_eq_panic_iff]
  constructor
  · rintro ⟨c, qs, ha, hopen, hstate⟩
    obtain ⟨pre, q, post, hqs, hq⟩ := openAll_eq_panic_iff.mp hopen
    have hsplit : qs = pre ++ q :: post := Except.ok.inj (ha.requested.symm.trans hqs)
    exact ⟨hstate, c, pre, q, post, hsplit ▸ ha, hq⟩
  · rintro ⟨hstate, c, pre, q, post, ha, hq⟩
    exact ⟨c, _, ha, openAll_eq_panic_iff.mpr ⟨pre, q, post, ha.requested, hq⟩, hstate⟩

end Life

/-! ## Two files -/

/-- Two databases in files; the pool of the second has its own limits. -/
def Options.twoFiles (pool : PoolSettings) : Options where
  config := some {
    connections := .ofList [("default", .url "sqlite://app.db"), ("z", .descriptor
      { engine := "sqlite", credentials := { filePath := some "z.db" }, pool })]
    apps := .singleton "m" { models := ["models"] } }

namespace Life

open World

/-- Pools with room for five connections. -/
theorem init_within_limits_five :
    Driver.standard.Guarded ∧
    (∀ c, (Options.twoFiles { maxConnections := some 5 }).load (Disk.text? {}) = .ok c →
      c.Feasible) ∧
    (init (resources .standard .standard) (.twoFiles { maxConnections := some 5 })
      ⟨.unstarted, {}⟩).1.isPanic = false := by
  have hfeasible : ∀ c, (Options.twoFiles { maxConnections := some 5 }).load (Disk.text? {}) =
      .ok c → c.Feasible := by
    intro c hc
    cases hc
    exact (@feasible_of_requests _ [⟨"default", "sqlite://app.db?mode=rwc", {}⟩,
      ⟨"z", "sqlite://z.db?mode=rwc", { maxConnections := some 5 }⟩] rfl).mpr (by decide)
  exact ⟨Driver.standard_guarded, hfeasible,
    ((init_within_limits .standard Driver.standard_guarded .standard _ {}).2.1 hfeasible).1⟩

/-- A pool without room for a connection passes all checks, and the start gets stuck. -/
theorem init_stuck_roomless :
    (∃ c, (Options.twoFiles { maxConnections := some 0 }).load (Disk.text? {}) = .ok c) ∧
    (init (resources .standard .standard) (.twoFiles { maxConnections := some 0 })
      ⟨.unstarted, {}⟩).1 = .panic "capacity must be non-zero" ∧
    (init (resources .standard .standard) (.twoFiles { maxConnections := some 0 })
      ⟨.unstarted, {}⟩).2.state = .initializing ∧
    (init (resources .standard .standard) (.twoFiles { maxConnections := some 0 })
      ⟨.unstarted, {}⟩).2.world.aliases = ["default"] := by
  refine ⟨⟨_, rfl⟩, by decide, by decide, by decide⟩

end Life

end DbLifecycle
