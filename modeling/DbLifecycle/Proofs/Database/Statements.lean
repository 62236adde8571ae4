import DbLifecycle.Database.Resources
import DbLifecycle.Lifecycle.Coordinator
import DbLifecycle.Proofs.Database.Pools

/-!
# Creating tables one after another

Missing tables are created app by app and entity by entity. Seen from afar this is one list of
statements, and the walk ends with all of them or at the first that fails.

* `World.plannedTables`: the statements of all apps.
* `World.Creates`: statements executed one after another.
* **`World.generateEach_creation`**: creating ends with all tables, or at the first that fails; the
  pools are left alone.
-/

namespace DbLifecycle

namespace World

/-- The tables of apps in the order they are created, each with what it is created on. -/
def plannedTables (catalog : Catalog) (w : World) (apps : List (String × App)) :
    List (Link × Entity) :=
  apps.flatMap fun a =>
    match w.pools.get? a.2.connection with
    | some pool => (catalog.entities a.2.models).map fun e => (pool.toLink, e)
    | none => []

theorem plannedTables_cons {catalog : Catalog} {w : World} {a : String × App}
    {apps : List (String × App)} {pool : Pool} (h : w.pools.get? a.2.connection = some pool) :
    plannedTables catalog w (a :: apps) =
      (catalog.entities a.2.models).map (fun e => (pool.toLink, e)) ++
        plannedTables catalog w apps := by
  unfold plannedTables
  rw [List.flatMap_cons, h]

theorem Keeps.plannedTables {catalog : Catalog} {w w' : World} (h : Keeps w w')
    (apps : List (String × App)) :
    w'.plannedTables catalog apps = w.plannedTables catalog apps := by
  unfold World.plannedTables
  rw [h.pools]

/-- Statements are executed one after another, and none of them fails. -/
inductive Creates (driver : Driver) : Disk → List (Link × Entity) → Disk → Prop
  | nil (d : Disk) : Creates driver d [] d
  | cons {d d₁ d' : Disk} {s : Link × Entity} {r : List (Link × Entity)}
      (hs : driver.create s.1 true s.2 d = .ok d₁) (hr : Creates driver d₁ r d') :
      Creates driver d (s :: r) d'

theorem Creates.append {driver : Driver} {d d₁ d' : Disk} {ss ts : List (Link × Entity)}
    (hs : Creates driver d ss d₁) (ht : Creates driver d₁ ts d') :
    Creates driver d (ss ++ ts) d' := by
  induction hs with
  | nil d => exact ht
  | cons hs _ ih => exact .cons hs (ih ht)

/-- How creating tables can end: with all of them, or at the first that cannot be created. -/
inductive Creation (driver : Driver) (w : World) (ss : List (Link × Entity)) :
    Outcome Error Unit × World → Prop
  | created {w' : World} (hk : Keeps w w') (h : Creates driver w.disk ss w'.disk) :
      Creation driver w ss (.ok (), w')
  | failed {pre post : List (Link × Entity)} {s : Link × Entity} {w' : World} {cause : DbError}
      (hk : Keeps w w') (hss : ss = pre ++ s :: post) (h : Creates driver w.disk pre w'.disk)
      (hs : driver.create s.1 true s.2 w'.disk = .error cause) :
      Creation driver w ss (.error (.schema cause), w')

namespace Creation

variable {driver : Driver} {w v : World} {ss ts : List (Link × Entity)}
  {end_ : Outcome Error Unit × World}

theorem keeps (h : Creation driver w ss end_) : Keeps w end_.2 := by
  cases h with
  | created hk _ => exact hk
  | failed hk _ _ _ => exact hk

/-- Nothing that is observed matters to the statements. -/
theorem of_keeps (hk : Keeps w v) (hd : v.disk = w.disk) (h : Creation driver v ss end_) :
    Creation driver w ss end_ := by
  cases h with
  | created hk' h => exact .created (hk.trans hk') (hd ▸ h)
  | failed hk' hss h hs => exact .failed (hk.trans hk') hss (hd ▸ h) hs

/-- Statements that were executed come before what the rest gives. -/
theorem after (hk : Keeps w v) (hc : Creates driver w.disk ss v.disk)
    (h : Creation driver v ts end_) : Creation driver w (ss ++ ts) end_ := by
  cases h with
  | created hk' h => exact .created (hk.trans hk') (hc.append h)
  | failed hk' hss h hs =>
    exact .failed (hk.trans hk') (by rw [hss, List.append_assoc]) (hc.append h) hs

/-- After a failure nothing more is executed. -/
theorem stop {e : Error} (h : Creation driver w ss (.error e, v)) :
    Creation driver w (ss ++ ts) (.error e, v) := by
  cases h with
  | failed hk hss h hs =>
    exact .failed hk (by rw [hss, List.append_assoc, List.cons_append]) h hs

end Creation

theorem createEach_creation (driver : Driver) (w : World) (link : Link) (es : List Entity) :
    Creation driver w (es.map fun e => (link, e)) (w.createEach driver link true es) := by
  induction es generalizing w with
  | nil => exact .created (.refl w) (.nil w.disk)
  | cons e r ih =>
    rw [createEach]
    cases hs : driver.create link true e w.disk with
    | error cause =>
      exact .failed (s := (link, e)) (.refl w) (List.nil_append _).symm (.nil w.disk) hs
    | ok disk =>
      have hfirst : Creates driver w.disk [(link, e)] disk := .cons hs (.nil disk)
      exact (ih { w with disk }).after (.setDisk w disk) hfirst

theorem generate_creation (driver : Driver) (catalog : Catalog) (w : World) (pool : Pool)
    (app : String) (models : List String) :
    Creation driver w ((catalog.entities models).map fun e => (pool.toLink, e))
      (w.generate driver catalog pool app models true) := by
  rw [generate]
  cases he : catalog.entities models with
  | nil => exact .created (.log w rfl rfl) (.nil w.disk)
  | cons e r => exact .of_keeps (.log w rfl rfl) rfl (createEach_creation driver _ _ _)

theorem require_eq_ok_iff {w : World} {a : String} {pool : Pool} :
    w.require a = .ok pool ↔ w.pools.get? a = some pool := by
  unfold require
  cases w.pools.get? a <;> simp

/-- What an app requires is there if its connection is open. -/
theorem exists_require {w : World} {a : String} (h : a ∈ w.aliases) :
    ∃ pool, w.require a = .ok pool := by
  obtain ⟨pool, hp⟩ := Dict.exists_of_mem_keys h
  exact ⟨pool, require_eq_ok_iff.mpr hp⟩

/-- **Creating the tables of apps ends with all of them, or at the first that fails.** -/
theorem generateEach_creation (driver : Driver) (catalog : Catalog) (apps : List (String × App))
    (w : World) (h : ∀ a ∈ apps, a.2.connection ∈ w.aliases) :
    Creation driver w (w.plannedTables catalog apps)
      (Life.generateEach (resources driver catalog) apps w) := by
  induction apps generalizing w with
  | nil => exact .created (.refl w) (.nil w.disk)
  | cons a rest ih =>
    obtain ⟨name, app⟩ := a
    obtain ⟨happ, hrest⟩ := List.forall_mem_cons.mp h
    obtain ⟨pool, hpool⟩ := exists_require happ
    have hgen := generate_creation driver catalog w pool name app.models
    rw [Life.generateEach, plannedTables_cons (require_eq_ok_iff.mp hpool)]
    simp only [resources_require, resources_generate, hpool]
    split
    · rename_i v hv
      rw [hv] at hgen
      cases hgen with
      | created hk hc =>
        have hnext := ih v fun b hb => by rw [hk.aliases]; exact hrest b hb
        rw [hk.plannedTables] at hnext
        exact hnext.after hk hc
    · rename_i o v hne hv
      rw [hv] at hgen
      cases hgen with
      | created hk hc => exact absurd rfl (hne ())
      | failed hk hss hc hs => exact (Creation.failed hk hss hc hs).stop

end World

end DbLifecycle
