import DbLifecycle.Database.Table
import Mathlib.Data.List.Sort

/-!
# Directories of users

What a table of users holds, as a map: the fields of every id, and the last id that was given. The
operations of a table are those of the map, and the map determines the rows.

* `Directory`: the map; `Directory.add`, `Directory.set`, `Directory.remove` change it.
* `Directory.listing`: its users by increasing id; `Directory.isTaken` looks for a user name in it.
* `Table.Ordered`: what holds of the rows of every table; `Table.directory`: a table as a map.
* **`Table.Ordered.rows_eq`**: the rows of a table are the listing of its directory.
* `Table.Ordered.insert`, `Table.Ordered.update`, `Table.Ordered.delete`: the operations of a table
  are those of its directory.
-/

namespace DbLifecycle

def User.input (v : User) : UserInput := ⟨v.username, v.name, v.familyName⟩

@[simp] theorem User.withId_input (v : User) : v.input.withId v.id = v := rfl

@[simp] theorem UserInput.id_withId (u : UserInput) (id : Int) : (u.withId id).id = id := rfl

theorem UserInput.withId_eq_iff {u : UserInput} {id : Int} {v : User} :
    u.withId id = v ↔ id = v.id ∧ u = v.input :=
  ⟨fun h => by subst h; exact ⟨rfl, rfl⟩, fun ⟨hid, hu⟩ => by rw [hid, hu, User.withId_input]⟩

/-- The fields of every id, and the last id that was given. -/
structure Directory where
  fields : Int → Option UserInput
  last : Int

namespace Directory

/-- The fields of an id are replaced. -/
def set (m : Directory) (id : Int) (u : UserInput) : Directory :=
  { m with fields := fun k => if k = id then some u else m.fields k }

/-- A user gets the next id. -/
def add (m : Directory) (u : UserInput) : Directory :=
  { m.set (m.last + 1) u with last := m.last + 1 }

/-- Nobody has an id any more. -/
def remove (m : Directory) (id : Int) : Directory :=
  { m with fields := fun k => if k = id then none else m.fields k }

/-- All users by increasing id. -/
def listing (m : Directory) : List User :=
  (List.range m.last.toNat).filterMap fun i : Nat => (m.fields (i + 1)).map (·.withId (i + 1))

/-- Whether somebody with another id than `except` has a user name. -/
def isTaken (m : Directory) (username : String) (except : Option Int) : Bool :=
  m.listing.any fun v => v.username = username ∧ some v.id ≠ except

/-- Only ids that were given have fields. -/
structure Given (m : Directory) : Prop where
  last : 0 ≤ m.last
  fields : ∀ id, (m.fields id).isSome → 1 ≤ id ∧ id ≤ m.last

theorem listing_sorted (m : Directory) : m.listing.Pairwise (·.id < ·.id) := by
  unfold listing
  refine List.pairwise_lt_range.filterMap _ fun i j hij v hv v' hv' => ?_
  obtain ⟨u, -, rfl⟩ := Option.map_eq_some_iff.mp hv
  obtain ⟨u', -, rfl⟩ := Option.map_eq_some_iff.mp hv'
  rw [UserInput.id_withId, UserInput.id_withId]
  omega

theorem mem_listing {m : Directory} (h : m.Given) {v : User} :
    v ∈ m.listing ↔ m.fields v.id = some v.input := by
  rw [listing, List.mem_filterMap]
  constructor
  · rintro ⟨i, -, hi⟩
    obtain ⟨u, hu, rfl⟩ := Option.map_eq_some_iff.mp hi
    exact hu
  · intro hv
    obtain ⟨hone, hlast⟩ := h.fields v.id (by rw [hv]; rfl)
    have hid : ((v.id - 1).toNat : Int) + 1 = v.id := by omega
    have hlt : (v.id - 1).toNat < m.last.toNat := by omega
    refine ⟨(v.id - 1).toNat, List.mem_range.mpr hlt, ?_⟩
    rw [hid, hv, Option.map_some, User.withId_input]

theorem isTaken_iff {m : Directory} (h : m.Given) {username : String} {except : Option Int} :
    m.isTaken username except = true ↔
      ∃ id u, m.fields id = some u ∧ u.username = username ∧ some id ≠ except := by
  rw [isTaken, List.any_eq_true]
  constructor
  · rintro ⟨v, hv, hname⟩
    exact ⟨v.id, v.input, (mem_listing h).mp hv, of_decide_eq_true hname⟩
  · rintro ⟨id, u, hu, hname⟩
    exact ⟨u.withId id, (mem_listing h).mpr hu, decide_eq_true hname⟩

theorem Given.set {m : Directory} (h : m.Given) {id : Int} (hid : 1 ≤ id ∧ id ≤ m.last)
    (u : UserInput) : (m.set id u).Given where
  last := h.last
  fields k hk := by
    by_cases hki : k = id
    · rw [hki]
      exact hid
    · exact h.fields k (by simpa [Directory.set, hki] using hk)

theorem Given.add {m : Directory} (h : m.Given) (u : UserInput) : (m.add u).Given where
  last := Int.le_add_one h.last
  fields k hk := by
    have hlast := h.last
    show 1 ≤ k ∧ k ≤ m.last + 1
    by_cases hkl : k = m.last + 1
    · omega
    · have := h.fields k (by simpa [Directory.add, Directory.set, hkl] using hk)
      omega

theorem Given.remove {m : Directory} (h : m.Given) (id : Int) : (m.remove id).Given where
  last := h.last
  fields k hk := by
    by_cases hki : k = id
    · simp [Directory.remove, hki] at hk
    · exact h.fields k (by simpa [Directory.remove, hki] using hk)

end Directory

/-! ## Tables -/

namespace Table

/-- Rows are in the order of their ids, and these were given by the table. -/
structure Ordered (t : Table) : Prop where
  last : 0 ≤ t.lastId
  sorted : t.rows.Pairwise (·.id < ·.id)
  given : ∀ v ∈ t.rows, 1 ≤ v.id ∧ v.id ≤ t.lastId

/-- A table as a map. -/
def directory (t : Table) : Directory := ⟨fun id => (t.find? id).map User.input, t.lastId⟩

theorem id_of_find? {t : Table} {id : Int} {v : User} (h : t.find? id = some v) : v.id = id := by
  unfold find? at h
  simpa using List.find?_some h

theorem fields_directory_eq_none_iff {t : Table} {id : Int} :
    t.directory.fields id = none ↔ t.find? id = none := Option.map_eq_none_iff

theorem fields_directory_of_find? {t : Table} {id : Int} {v : User} (h : t.find? id = some v) :
    t.directory.fields id = some v.input := by
  show (t.find? id).map User.input = _
  rw [h, Option.map_some]

theorem fields_directory_ne_none {t : Table} {id : Int} {v : User} (h : t.find? id = some v) :
    t.directory.fields id ≠ none := by
  rw [fields_directory_of_find? h]
  exact Option.some_ne_none _

namespace Ordered

variable {t : Table}

theorem eq_of_id (h : t.Ordered) {v v' : User} (hv : v ∈ t.rows) (hv' : v' ∈ t.rows)
    (hid : v.id = v'.id) : v = v' := by
  refine List.inj_on_of_nodup_map ?_ hv hv' hid
  rw [List.nodup_iff_pairwise_ne, List.pairwise_map]
  exact h.sorted.imp fun hlt => Int.ne_of_lt hlt

theorem find?_eq_some_iff (h : t.Ordered) {id : Int} {v : User} :
    t.find? id = some v ↔ v ∈ t.rows ∧ v.id = id := by
  refine ⟨fun hf => ⟨List.mem_of_find?_eq_some hf, id_of_find? hf⟩, ?_⟩
  rintro ⟨hv, rfl⟩
  cases hf : t.find? v.id with
  | none => exact absurd (List.find?_eq_none.mp hf v hv) (by simp)
  | some v' =>
    rw [h.eq_of_id (List.mem_of_find?_eq_some hf) hv (id_of_find? hf)]

theorem fields_directory (h : t.Ordered) {id : Int} {u : UserInput} :
    t.directory.fields id = some u ↔ u.withId id ∈ t.rows := by
  show (t.find? id).map User.input = some u ↔ _
  rw [Option.map_eq_some_iff]
  constructor
  · rintro ⟨v, hv, rfl⟩
    obtain ⟨hmem, rfl⟩ := h.find?_eq_some_iff.mp hv
    exact hmem
  · intro hu
    exact ⟨u.withId id, h.find?_eq_some_iff.mpr ⟨hu, rfl⟩, rfl⟩

theorem fields_of_mem (h : t.Ordered) {v : User} (hv : v ∈ t.rows) :
    t.directory.fields v.id = some v.input := h.fields_directory.mpr hv

theorem directory_given (h : t.Ordered) : t.directory.Given where
  last := h.last
  fields id hid := by
    obtain ⟨u, hu⟩ := Option.isSome_iff_exists.mp hid
    exact h.given _ (h.fields_directory.mp hu)

/-- **The rows of a table are the listing of its directory.** -/
theorem rows_eq (h : t.Ordered) : t.rows = t.directory.listing := by
  have : Std.Antisymm fun v v' : User => v.id < v'.id := ⟨fun v v' hlt hgt => by omega⟩
  have : Std.Irrefl fun v v' : User => v.id < v'.id := ⟨fun v hlt => by omega⟩
  refine List.Pairwise.eq_of_mem_iff h.sorted t.directory.listing_sorted fun v => ?_
  rw [Directory.mem_listing h.directory_given, h.fields_directory, User.withId_input]

/-- A table is known by its definition and its directory. -/
theorem ext (h : t.Ordered) {t' : Table} (h' : t'.Ordered) (he : t'.entity = t.entity)
    (hd : t'.directory = t.directory) : t' = t := by
  have hrows : t'.rows = t.rows := by rw [h.rows_eq, h'.rows_eq, hd]
  have hlast : t'.lastId = t.lastId := congrArg Directory.last hd
  cases t
  cases t'
  cases he
  cases hrows
  cases hlast
  rfl

theorem isTaken_eq (h : t.Ordered) (username : String) (except : Option Int) :
    t.isTaken username except = t.directory.isTaken username except := by
  rw [Table.isTaken, Directory.isTaken, h.rows_eq]

/-- Adding a row is adding a user. -/
theorem insert (h : t.Ordered) (u : UserInput) :
    let t' := { t with rows := t.rows ++ [u.withId (t.lastId + 1)], lastId := t.lastId + 1 }
    t'.Ordered ∧ t'.directory = t.directory.add u := by
  intro t'
  have hlast := h.last
  have ht' : t'.Ordered :=
    { last := Int.le_add_one h.last
      sorted := by
        refine List.pairwise_append.mpr ⟨h.sorted, List.pairwise_singleton _ _, fun v hv v' hv' => ?_⟩
        rw [List.mem_singleton.mp hv', UserInput.id_withId]
        exact Int.lt_add_one_of_le (h.given v hv).2
      given := fun v hv => by
        show 1 ≤ v.id ∧ v.id ≤ t.lastId + 1
        rcases List.mem_append.mp hv with hv | hv
        · have := h.given v hv
          omega
        · rw [List.mem_singleton.mp hv, UserInput.id_withId]
          omega }
  refine ⟨ht', congrArg (Directory.mk · _) (funext fun k => Option.ext fun u' => ?_)⟩
  show t'.directory.fields k = _ ↔ (if k = t.lastId + 1 then some u else t.directory.fields k) = _
  rw [ht'.fields_directory, List.mem_append, List.mem_singleton]
  split
  · rename_i hk
    rw [hk, Option.some.injEq, or_iff_right fun hmem => ?_, UserInput.withId_eq_iff]
    · exact ⟨fun hu => hu.2.symm, fun hu => ⟨rfl, hu.symm⟩⟩
    · have : t.lastId + 1 ≤ t.lastId := (h.given _ hmem).2
      omega
  · rename_i hk
    rw [h.fields_directory, or_iff_left fun hu => hk (UserInput.withId_eq_iff.mp hu).1]

/-- Replacing the fields of a row is replacing those of its id. -/
theorem update (h : t.Ordered) {id : Int} (hid : t.directory.fields id ≠ none) (u : UserInput) :
    let t' := { t with rows := t.rows.map fun v : User => if v.id = id then u.withId id else v }
    t'.Ordered ∧ t'.directory = t.directory.set id u := by
  intro t'
  have hkeep : ∀ v : User, (if v.id = id then u.withId id else v).id = v.id := by
    intro v
    split <;> simp_all
  have ht' : t'.Ordered :=
    { last := h.last
      sorted := List.pairwise_map.mpr (h.sorted.imp fun hlt => by rwa [hkeep, hkeep])
      given := fun v hv => by
        obtain ⟨old, hold, rfl⟩ := List.mem_map.mp hv
        rw [hkeep]
        exact h.given old hold }
  refine ⟨ht', congrArg (Directory.mk · _) (funext fun k => Option.ext fun u' => ?_)⟩
  show t'.directory.fields k = _ ↔ (if k = id then some u else t.directory.fields k) = _
  rw [ht'.fields_directory, List.mem_map]
  obtain ⟨old, hold⟩ := Option.ne_none_iff_exists'.mp hid
  rw [h.fields_directory] at hold
  split
  · rename_i hk
    rw [hk, Option.some.injEq]
    constructor
    · rintro ⟨v, -, hv⟩
      have hvid : v.id = id := by rw [← hkeep v, hv, UserInput.id_withId]
      rw [if_pos hvid] at hv
      exact (UserInput.withId_eq_iff.mp hv).2
    · rintro rfl
      exact ⟨_, hold, if_pos rfl⟩
  · rename_i hk
    rw [h.fields_directory]
    constructor
    · rintro ⟨v, hv, hvu⟩
      have hvid : v.id ≠ id := fun hvid => hk (by rw [← hvid, ← hkeep v, hvu, UserInput.id_withId])
      rw [if_neg hvid] at hvu
      exact hvu ▸ hv
    · exact fun hu => ⟨_, hu, if_neg hk⟩

/-- Removing the row of an id is removing its user. -/
theorem delete (h : t.Ordered) (id : Int) :
    (t.delete id).Ordered ∧ (t.delete id).directory = t.directory.remove id := by
  have ht' : (t.delete id).Ordered :=
    { last := h.last
      sorted := h.sorted.filter _
      given := fun v hv => h.given v (List.mem_of_mem_filter hv) }
  refine ⟨ht', congrArg (Directory.mk · _) (funext fun k => Option.ext fun u => ?_)⟩
  show (t.delete id).directory.fields k = _ ↔
    (if k = id then none else t.directory.fields k) = _
  rw [ht'.fields_directory, Table.delete, List.mem_filter]
  split
  · rename_i hk
    simp [hk]
  · rename_i hk
    rw [h.fields_directory]
    simp [hk]

end Ordered

end Table

end DbLifecycle
