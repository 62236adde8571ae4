import DbLifecycle.Proofs.Config.Loading
import DbLifecycle.Proofs.Database.Statements

/-!
# How starting ends

A coordinator that is asked to start goes through fixed stages: it loads and checks the
configuration, opens every connection, and creates missing tables. Whatever the driver answers,
starting ends at one of these stages.

* `Life.Accepted`: a configuration that passed all checks made before anything is opened.
* `Life.Start`, **`Life.init_start`**: the ends that starting can have.
* `Life.activate_of_init_ok`, `Life.activate_of_init_ne_ok`: starting with a host.
-/

namespace DbLifecycle

namespace Life

/-! ## Stages -/

section Stages

variable {σ : Type} {r : Resources σ} {o : Options} {w : σ} {c : Config}

theorem init_of_not_unstarted {l : Life σ} (h : l.state ≠ .unstarted) :
    init r o l = (.error (.lifecycle .init l.state), l) := by
  unfold init
  rw [if_neg h]

theorem init_unloaded {e : ConfigError} (h : o.load (r.readFile w) = .error e) :
    init r o ⟨.unstarted, w⟩ = (.error (.configuration e), ⟨.unstarted, w⟩) := by
  simp only [init, if_true, h]

theorem init_invalid {e : Error} (h : o.load (r.readFile w) = .ok c)
    (he : r.validate c.apps = .error e) :
    init r o ⟨.unstarted, w⟩ = (.error e, ⟨.unstarted, w⟩) := by
  simp only [init, if_true, h, he]

theorem init_valid (h : o.load (r.readFile w) = .ok c) (hv : r.validate c.apps = .ok ()) :
    init r o ⟨.unstarted, w⟩ = openConfig r o.generateSchemas c w := by
  simp only [init, if_true, h, hv]

/-- Whoever has to close after a failure does not get ready. -/
theorem rollBack_ne_ok {e : Error} {l : Life σ} : rollBack r e w ≠ (.ok (), l) := by
  unfold rollBack
  split <;> intro h <;> cases h

theorem finishInit_state_of_ok {generate : Bool} {l : Life σ}
    (h : finishInit r generate c w = (.ok (), l)) : l.state = .ready := by
  unfold finishInit at h
  split at h
  · split at h
    · cases h
      rfl
    · exact absurd h rollBack_ne_ok
    · cases h
  · cases h
    rfl

/-- Who has started is ready. -/
theorem init_state_of_ok {l l' : Life σ} (h : init r o l = (.ok (), l')) : l'.state = .ready := by
  unfold init openConfig at h
  split at h
  · split at h
    · cases h
    · split at h
      · cases h
      · split at h
        · exact finishInit_state_of_ok h
        · cases h
        · cases h
  · cases h

/-! ## Hosts -/

theorem registerHandlers_of_not_ready {l : Life σ} {host : Host} (h : l.state ≠ .ready) :
    registerHandlers r host l = (.error (.lifecycle .registerHandlers l.state), host, l) := by
  unfold registerHandlers
  rw [if_neg h]

/-- A started coordinator gives the host its handlers if the options ask for it. -/
theorem activate_of_init_ok {l l' : Life σ} (host : Host) (h : init r o l = (.ok (), l')) :
    activate r o host l =
      if o.addHandlers then registerHandlers r host l' else (.ok (), host, l') := by
  unfold activate
  rw [h]

/-- A coordinator that did not start leaves the host alone. -/
theorem activate_of_init_ne_ok {l : Life σ} (host : Host) (h : (init r o l).1 ≠ .ok ()) :
    activate r o host l = ((init r o l).1, host, (init r o l).2) := by
  unfold activate
  split
  · rename_i u l' hl
    rw [hl] at h
    exact absurd rfl h
  · rename_i stop l' hne hl
    rw [hl]

end Stages

/-! ## Closing -/

section Close

variable {σ : Type} {r : Resources σ}

theorem close_of_not_ready {l : Life σ} (h : l.state ≠ .ready) :
    close r l = (.error (.lifecycle .close l.state), l) := by
  unfold close
  rw [if_neg h]

/-- Closing a ready coordinator closes it, whatever becomes of the pools. -/
theorem close_state_of_ready {l : Life σ} (h : l.state = .ready) :
    (close r l).2.state = .closed := by
  unfold close
  rw [if_pos h]
  split <;> rfl

end Close

/-! ## Ends -/

open World

/-- A configuration passed all checks that are made before anything is opened, and its connections
are these. -/
structure Accepted (catalog : Catalog) (o : Options) (w : World) (c : Config)
    (qs : List Request) : Prop where
  loaded : o.load w.disk.text? = .ok c
  modelled : catalog.validate c.apps = .ok ()
  requested : requests c = .ok qs

namespace Accepted

variable {catalog : Catalog} {o : Options} {w v : World} {c : Config} {qs : List Request}

theorem aliases (h : Accepted catalog o w c qs) : qs.map (·.aliasName) = c.connections.keys :=
  aliases_requests h.requested

theorem nodup (h : Accepted catalog o w c qs) : (qs.map (·.aliasName)).Nodup := by
  rw [h.aliases]
  exact c.connections.keys_nodup

/-- The connections of all apps are among those to be opened. -/
theorem connection_mem (h : Accepted catalog o w c qs) (hv : Opened w qs v) :
    ∀ a ∈ c.apps.entries, a.2.connection ∈ v.aliases := by
  intro a ha
  have hvalid := Config.validate_eq_ok_iff.mp (Options.validate_of_load h.loaded)
  rw [hv.mem_aliases, h.aliases]
  exact .inl (hvalid.2.2.2 a ha)

end Accepted

/-- How starting an unstarted coordinator can end. -/
inductive Start (driver : Driver) (catalog : Catalog) (o : Options) (w : World) :
    Outcome Error Unit × Life World → Prop
  /-- There is no usable configuration. -/
  | unloaded {e : ConfigError} (h : o.load w.disk.text? = .error e) :
      Start driver catalog o w (.error (.configuration e), ⟨.unstarted, w⟩)
  /-- An app has a location that the catalog does not know. -/
  | unmodelled {c : Config} {e : ConfigError} (h : o.load w.disk.text? = .ok c)
      (he : catalog.validate c.apps = .error e) :
      Start driver catalog o w (.error (.configuration e), ⟨.unstarted, w⟩)
  /-- A connection cannot be opened; those before it are closed. -/
  | refused {c : Config} {qs pre post : List Request} {q : Request} {v : World} {cause : DbError}
      (ha : Accepted catalog o w c qs) (hqs : qs = pre ++ q :: post) (hv : Opens driver w pre v)
      (hq : driver.openPool q.url q.settings v.disk = .error cause) :
      Start driver catalog o w (.error (.connection cause),
        ⟨.unstarted, (v.log (.openFailed q.aliasName cause)).undo driver (pre.map (·.aliasName))⟩)
  /-- Opening a connection panics. -/
  | panicked {c : Config} {qs pre post : List Request} {q : Request} {v : World} {text : String}
      (ha : Accepted catalog o w c qs) (hqs : qs = pre ++ q :: post) (hv : Opens driver w pre v)
      (hq : driver.openPool q.url q.settings v.disk = .panic text) :
      Start driver catalog o w (.panic text, ⟨.initializing, v⟩)
  /-- A table cannot be created; all connections are closed. -/
  | uncreated {c : Config} {qs : List Request} {v u w' : World} {pre post : List (Link × Entity)}
      {s : Link × Entity} {cause : DbError} (ha : Accepted catalog o w c qs)
      (hv : Opens driver w qs v) (hgen : o.generateSchemas = true)
      (hss : v.plannedTables catalog c.apps.entries = pre ++ s :: post)
      (hpre : Creates driver v.disk pre u.disk)
      (hs : driver.create s.1 true s.2 u.disk = .error cause) (hu : Keeps v u)
      (hw' : Closes u u.aliases w') (hfiles : w'.disk.files = u.disk.files) :
      Start driver catalog o w (.error (.schema cause), ⟨.unstarted, w'⟩)
  /-- All connections are open, and no table is missing that was asked for. -/
  | ready {c : Config} {qs : List Request} {v w' : World} (ha : Accepted catalog o w c qs)
      (hv : Opens driver w qs v) (hw' : Keeps v w')
      (hgen : Creates driver v.disk
        (if o.generateSchemas then v.plannedTables catalog c.apps.entries else []) w'.disk) :
      Start driver catalog o w (.ok (), ⟨.ready, w'⟩)

section Init

variable (driver : Driver) (catalog : Catalog) (o : Options)

/-- Closing a ready coordinator closes all pools, even if it reports an error. -/
theorem close_closes (w : World) :
    Closes w w.aliases (close (resources driver catalog) ⟨.ready, w⟩).2.world := by
  have hc := closeAll_closes driver w
  unfold close
  rw [if_pos rfl, resources_closeAll]
  split
  · rename_i v hv
    rw [hv] at hc
    exact hc.keeps (.log v rfl rfl)
  · rename_i e v hv
    rw [hv] at hc
    exact hc
  · rename_i text v hv
    rw [hv] at hc
    exact hc

/-- Closing after a failure: the caller is told of the failure, not of the closing. -/
theorem rollBack_closes (e : Error) (w : World) :
    ∃ w', rollBack (resources driver catalog) e w = (.error e, ⟨.unstarted, w'⟩) ∧
      Closes w w.aliases w' ∧ w'.disk.files = w.disk.files := by
  have hc := closeAll_closes driver w
  have hfiles := files_closeAliases driver w w.aliases
  have hp := closeAliases_isPanic driver w w.aliases
  unfold rollBack
  rw [resources_closeAll]
  split
  · rename_i v hv
    rw [closeAll] at hv
    rw [closeAll, hv] at hc
    rw [hv] at hfiles
    exact ⟨v, rfl, hc, hfiles⟩
  · rename_i closing v hv
    rw [closeAll] at hv
    rw [closeAll, hv] at hc
    rw [hv] at hfiles
    exact ⟨_, rfl, hc.keeps (.log v rfl rfl), hfiles⟩
  · rename_i text v hv
    rw [closeAll] at hv
    rw [hv] at hp
    cases hp

/-- With all connections open, starting ends with the tables. -/
theorem finishInit_start {w v u : World} {c : Config} {qs : List Request}
    (ha : Accepted catalog o w c qs) (hv : Opens driver w qs v) (hu : Keeps v u)
    (hd : u.disk = v.disk) :
    Start driver catalog o w (finishInit (resources driver catalog) o.generateSchemas c u) := by
  unfold finishInit
  cases hgen : o.generateSchemas with
  | false =>
    refine .ready ha hv hu ?_
    rw [hgen, hd]
    exact .nil v.disk
  | true =>
    have hlog : Keeps v (u.log .generating) := hu.trans (.log u rfl rfl)
    have hcreate := generateEach_creation driver catalog c.apps.entries (u.log .generating)
      (by rw [hlog.aliases]; exact ha.connection_mem hv.opened)
    rw [hlog.plannedTables] at hcreate
    have hcreate := hcreate.of_keeps hlog hd
    simp only [if_true, resources_log]
    generalize generateEach (resources driver catalog) c.apps.entries (u.log .generating) = end_
      at hcreate ⊢
    cases hcreate with
    | created hk h =>
      refine .ready ha hv hk ?_
      rw [hgen]
      exact h
    | failed hk hss hpre hs =>
      obtain ⟨w', hw', hc, hfiles⟩ := rollBack_closes driver catalog _ _
      dsimp only
      rw [hw']
      exact .uncreated ha hv hgen hss hpre hs hk hc hfiles

/-- **Starting ends at one of its stages**, whatever the driver answers. -/
theorem init_start (w : World) :
    Start driver catalog o w (init (resources driver catalog) o ⟨.unstarted, w⟩) := by
  cases hload : o.load w.disk.text? with
  | error e =>
    rw [init_unloaded (r := resources driver catalog) hload]
    exact .unloaded hload
  | ok c =>
    cases hval : catalog.validate c.apps with
    | error e =>
      have hr : (resources driver catalog).validate c.apps = .error (.configuration e) := by
        rw [resources_validate, hval]
        rfl
      rw [init_invalid (r := resources driver catalog) hload hr]
      exact .unmodelled hload hval
    | ok u =>
      have hr : (resources driver catalog).validate c.apps = .ok () := by
        rw [resources_validate, hval]
        rfl
      obtain ⟨qs, hqs⟩ := exists_requests (Options.validate_of_load hload)
      have ha : Accepted catalog o w c qs := ⟨hload, hval, hqs⟩
      have hopen := openEach_opening driver [] w qs
      rw [init_valid (r := resources driver catalog) hload hr]
      simp only [openConfig, resources_openAll, openAll, hqs]
      generalize w.openEach driver [] qs = end_ at hopen ⊢
      cases hopen with
      | @opened v hv => exact finishInit_start driver catalog o ha hv (.log v rfl rfl) rfl
      | refused hsplit hv hq => exact .refused ha hsplit hv hq
      | panicked hsplit hv hq => exact .panicked ha hsplit hv hq

end Init

end Life

/-! ## A small service -/

/-- One database in a file, with the table of the users and the standard handlers. -/
def Options.oneFile : Options where
  url := some "sqlite://app.db"
  modules := some (.singleton "users" ["models"])
  generateSchemas := true
  addHandlers := true

/-- Databases in files and in memory, of which none takes a table. -/
def Driver.tableless : Driver :=
  { Driver.standard with create := fun _ _ _ _ => .error (.execution (.text "disk is full")) }

end DbLifecycle
