import DbLifecycle.Proofs.Lifecycle.Start

/-!
# The kind of an error tells the stage

Starting checks the configuration, opens connections, and creates tables. The kind of the error that
it ends with tells how far it got, as no error of a later stage can be one of an earlier stage: what
was checked is never missing afterwards.

* `Life.Reached`: how far starting got, by its error.
* `Life.exists_require_of_generateEach`: while tables are created, all connections are there.
* **`Life.init_error_reached`**: the kind of the error tells the stage.
-/

namespace DbLifecycle

namespace World

/-! ## Opening creates no tables -/

section Create

variable (driver : Driver) (create : Link → Bool → Entity → Disk → Except DbError Disk)

theorem closeEach_withCreate (w : World) (aliases : List String) :
    w.closeEach { driver with create } aliases = w.closeEach driver aliases := by
  induction aliases generalizing w with
  | nil => rfl
  | cons a r ih =>
    rw [closeEach, closeEach]
    cases w.pools.get? a with
    | none => exact ih w
    | some pool =>
      dsimp only
      rw [ih]
      rfl

theorem undo_withCreate (w : World) (done : List String) :
    w.undo { driver with create } done = w.undo driver done := by
  unfold undo closeAliases
  rw [closeEach_withCreate]

theorem openEach_withCreate (w : World) (done : List String) (qs : List Request) :
    w.openEach { driver with create } done qs = w.openEach driver done qs := by
  induction qs generalizing w done with
  | nil => rfl
  | cons q r ih =>
    have hq : Driver.openPool { driver with create } q.url q.settings w.disk =
        driver.openPool q.url q.settings w.disk := rfl
    rw [openEach, openEach, hq]
    cases driver.openPool q.url q.settings w.disk with
    | ok opened => exact ih _ _
    | error e =>
      dsimp only
      rw [undo_withCreate]
    | panic text => rfl

/-- Opening connections executes no statement. -/
theorem openAll_withCreate (w : World) (c : Config) :
    w.openAll { driver with create } c = w.openAll driver c := by
  unfold openAll
  cases requests c with
  | error e => rfl
  | ok qs => exact openEach_withCreate driver create w [] qs

end Create

/-- After some connections, the others are opened. -/
theorem Opens.openEach {driver : Driver} {w v : World} {pre : List Request}
    (h : Opens driver w pre v) (done : List String) (r : List Request) :
    w.openEach driver done (pre ++ r) = v.openEach driver (done ++ pre.map (·.aliasName)) r := by
  induction h generalizing done with
  | nil w => rw [List.nil_append, List.map_nil, List.append_nil]
  | cons hq hr ih =>
    rw [List.cons_append, World.openEach, hq]
    dsimp only
    rw [ih, List.map_cons, List.append_assoc, List.singleton_append]

end World

namespace Life

open World

variable {driver : Driver} {catalog : Catalog} {o : Options} {w v : World} {c : Config}
  {qs : List Request}

theorem Accepted.openAll_of_opens (ha : Accepted catalog o w c qs) (hv : Opens driver w qs v) :
    w.openAll driver c = (.ok (), v) := by
  have hall := hv.openEach [] []
  rw [List.append_nil] at hall
  rw [World.openAll, ha.requested]
  exact hall

theorem Accepted.openAll_of_refused {pre post : List Request} {q : Request} {cause : DbError}
    (ha : Accepted catalog o w c qs) (hqs : qs = pre ++ q :: post) (hv : Opens driver w pre v)
    (hq : driver.openPool q.url q.settings v.disk = .error cause) :
    w.openAll driver c = (.error (.connection cause),
      (v.log (.openFailed q.aliasName cause)).undo driver (pre.map (·.aliasName))) := by
  have hall := hv.openEach [] (q :: post)
  rw [World.openEach, hq] at hall
  rw [World.openAll, ha.requested, hqs]
  exact hall

/-! ## What was checked is there -/

/-- **While tables are created, all connections are there**: what an app requires was opened. -/
theorem exists_require_of_generateEach (hload : o.load w.disk.text? = .ok c)
    (hval : catalog.validate c.apps = .ok ()) (hopen : w.openAll driver c = (.ok (), v))
    {pre post : List (String × App)} {a : String × App} (happs : c.apps.entries = pre ++ a :: post)
    {u u' : World} (hu : Keeps v u)
    (hpre : generateEach (resources driver catalog) pre u = (.ok (), u')) :
    ∃ pool, u'.require a.2.connection = .ok pool := by
  obtain ⟨qs, hqs⟩ := exists_requests (Options.validate_of_load hload)
  have ha : Accepted catalog o w c qs := ⟨hload, hval, hqs⟩
  have hv : Opens driver w qs v := by
    have h := openEach_opening driver [] w qs
    rw [World.openAll, hqs] at hopen
    dsimp only at hopen
    rw [hopen] at h
    cases h with
    | opened hv => exact hv
  have hconn := ha.connection_mem hv.opened
  have hkeeps : Keeps u u' := by
    have h := generateEach_creation driver catalog pre u fun b hb => by
      rw [hu.aliases]
      exact hconn b (by rw [happs]; exact List.mem_append_left _ hb)
    rw [hpre] at h
    exact h.keeps
  refine exists_require ?_
  rw [hkeeps.aliases, hu.aliases]
  exact hconn a (by rw [happs]; simp)

/-! ## Stages -/

/-- How far starting got that ended with an error. -/
def Reached (driver : Driver) (catalog : Catalog) (o : Options) (w : World) (l : Life World) :
    Error → Prop
  -- nothing was asked of the databases, so nothing depends on their answers
  | .configuration e => l = ⟨.unstarted, w⟩ ∧
    ∀ driver' : Driver, init (resources driver' catalog) o ⟨.unstarted, w⟩ =
      (.error (.configuration e), l)
  -- a connection failed, and what creating tables would have answered does not matter
  | .connection cause =>
    (∃ c qs pre q post v, Accepted catalog o w c qs ∧ qs = pre ++ q :: post ∧
      Opens driver w pre v ∧ driver.openPool q.url q.settings v.disk = .error cause) ∧
    ∀ create, init (resources { driver with create } catalog) o ⟨.unstarted, w⟩ =
      (.error (.connection cause), l)
  -- all connections were open
  | .schema _ => ∃ c v, o.load w.disk.text? = .ok c ∧ w.openAll driver c = (.ok (), v) ∧
    ∀ a ∈ c.connections.keys, a ∈ v.aliases
  | _ => False

theorem validate_resources (driver : Driver) (h : catalog.validate c.apps = .ok ()) :
    (resources driver catalog).validate c.apps = .ok () := by
  rw [resources_validate, h]
  rfl

/-- **The kind of an error tells how far starting got.** There are no other kinds of errors: after the
checks, every URL and every connection that an app requires is there. -/
theorem init_error_reached (driver : Driver) (catalog : Catalog) (o : Options) (w : World) :
    (∀ e l, init (resources driver catalog) o ⟨.unstarted, w⟩ = (.error e, l) →
      Reached driver catalog o w l e) ∧
    ∀ c, o.load w.disk.text? = .ok c → catalog.validate c.apps = .ok () →
      (∃ qs, requests c = .ok qs) ∧
      ∀ v, w.openAll driver c = (.ok (), v) →
        ∀ pre a post, c.apps.entries = pre ++ a :: post →
          ∀ u u', Keeps v u → generateEach (resources driver catalog) pre u = (.ok (), u') →
            ∃ pool, u'.require a.2.connection = .ok pool := by
  refine ⟨fun e l h => ?_, fun c hload hval => ⟨exists_requests (Options.validate_of_load hload),
    fun v hopen pre a post happs u u' hu hpre =>
      exists_require_of_generateEach hload hval hopen happs hu hpre⟩⟩
  have hstart := init_start driver catalog o w
  rw [h] at hstart
  cases hstart with
  | unloaded hload =>
    exact ⟨rfl, fun driver' => init_unloaded (r := resources driver' catalog) hload⟩
  | unmodelled hload he =>
    refine ⟨rfl, fun driver' => init_invalid (r := resources driver' catalog) hload ?_⟩
    rw [resources_validate, he]
    rfl
  | @refused c qs pre post q v cause ha hqs hv hq =>
    refine ⟨⟨c, qs, pre, q, post, v, ha, hqs, hv, hq⟩, fun create => ?_⟩
    rw [init_valid (r := resources { driver with create } catalog) ha.loaded
      (validate_resources _ ha.modelled), openConfig, resources_openAll, openAll_withCreate,
      ha.openAll_of_refused hqs hv hq]
  | @uncreated c qs v u w' pre post s cause ha hv hgen hss hpre hs hu hw' =>
    refine ⟨c, v, ha.loaded, ha.openAll_of_opens hv, fun a hmem => ?_⟩
    rw [hv.opened.mem_aliases, ha.aliases]
    exact .inl hmem

/-- A table is refused when its connection is open. -/
theorem init_error_reached_tableless :
    (init (resources .tableless .standard) .oneFile ⟨.unstarted, {}⟩).1 =
      .error (.schema (.execution (.text "disk is full"))) ∧
    ∃ c v, Options.oneFile.load (Disk.text? {}) = .ok c ∧
      ({} : World).openAll .tableless c = (.ok (), v) ∧
      ∀ a ∈ c.connections.keys, a ∈ v.aliases := by
  have herror : (init (resources .tableless .standard) .oneFile ⟨.unstarted, {}⟩).1 =
      .error (.schema (.execution (.text "disk is full"))) := by decide
  exact ⟨herror, (init_error_reached .tableless .standard .oneFile {}).1 _ _ (Prod.ext herror rfl)⟩

end Life

end DbLifecycle
