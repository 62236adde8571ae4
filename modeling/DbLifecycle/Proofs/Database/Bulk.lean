import DbLifecycle.Database.Bulk
import DbLifecycle.Proofs.Batches
import DbLifecycle.Proofs.Service.Reference

/-!
# Inserting in batches

Many users are inserted in batches, and each batch is all or nothing. So what stays in the table is
everything, or the batches before the one with the first user whose name is taken.

* `Table.numbered`, `Table.append`: further users under the next ids; `Table.Ordered.append`.
* `Table.Clash`: a user whose name is in the table, or carried by an earlier user.
* `Table.insertAll_of_free`, `Table.insertAll_of_clash`: what one statement makes of a table.
* `World.withTable`: a world in which a pool leads to another table of the users.
* `World.insertEach_of_free`, `World.insertEach_of_clash`: batches one after another.
* **`World.bulkInsert_keeps_full_batches`**: what is inserted for every batch size.
-/

namespace DbLifecycle

/-! ## Tables -/

namespace Table

/-- Users under the ids that follow on one. -/
def numbered (last : Int) (us : List UserInput) : List User :=
  us.mapIdx fun i u => u.withId (last + 1 + i)

/-- A table with further users, under the ids that come next. -/
def append (t : Table) (us : List UserInput) : Table :=
  { t with rows := t.rows ++ numbered t.lastId us, lastId := t.lastId + us.length }

/-- The user at an index has a name that a row of the table has, or an earlier user. -/
def Clash (t : Table) (us : List UserInput) (i : Nat) : Prop :=
  ∃ u ∈ us[i]?,
    (∃ v ∈ t.rows, v.username = u.username) ∨ ∃ v ∈ us.take i, v.username = u.username

instance (t : Table) (us : List UserInput) (i : Nat) : Decidable (t.Clash us i) := by
  unfold Clash
  infer_instance

variable {t : Table} {us vs : List UserInput} {u : UserInput} {i : Nat}

theorem numbered_append (last : Int) (us vs : List UserInput) :
    numbered last (us ++ vs) = numbered last us ++ numbered (last + us.length) vs := by
  have hids : (fun (i : Nat) (v : UserInput) =>
      v.withId (last + 1 + ((i + us.length : Nat) : Int))) =
        fun i v => v.withId (last + us.length + 1 + i) := by
    funext i v
    congr 1
    omega
  rw [numbered, List.mapIdx_append, hids]
  rfl

@[simp]
theorem append_nil (t : Table) : t.append [] = t := by
  simp [append, numbered]

theorem append_append (t : Table) (us vs : List UserInput) :
    (t.append us).append vs = t.append (us ++ vs) := by
  simp only [append, numbered_append, List.append_assoc, List.length_append, Int.natCast_add,
    Int.add_assoc]

/-- Adding a row is adding one user. -/
theorem insert_of_free (h : t.isTaken u.username none = false) :
    t.insert u = .ok (t.append [u], u.withId (t.lastId + 1)) := by
  rw [insert, h]
  simp [append, numbered]

theorem Ordered.append (h : t.Ordered) (us : List UserInput) : (t.append us).Ordered := by
  induction us generalizing t with
  | nil => rwa [append_nil]
  | cons u r ih =>
    have hone : (t.append [u]).Ordered := by
      simpa [Table.append, numbered] using (h.insert u).1
    rw [← List.singleton_append, ← append_append]
    exact ih hone

/-! ### Clashes -/

theorem isTaken_none_iff {username : String} :
    t.isTaken username none = true ↔ ∃ v ∈ t.rows, v.username = username := by
  simp [isTaken]

/-- The names of a table with further users. -/
theorem exists_mem_rows_append {username : String} :
    (∃ v ∈ (t.append us).rows, v.username = username) ↔
      (∃ v ∈ t.rows, v.username = username) ∨ ∃ u ∈ us, u.username = username := by
  have hnew : (∃ v ∈ numbered t.lastId us, v.username = username) ↔
      ∃ u ∈ us, u.username = username := by
    simp only [numbered, List.mem_mapIdx]
    constructor
    · rintro ⟨v, ⟨i, hi, rfl⟩, hv⟩
      exact ⟨us[i], List.getElem_mem hi, hv⟩
    · rintro ⟨u, hu, hname⟩
      obtain ⟨i, hi, rfl⟩ := List.getElem_of_mem hu
      exact ⟨_, ⟨i, hi, rfl⟩, hname⟩
  simp only [append, List.mem_append, or_and_right, exists_or, hnew]

theorem Clash.lt (h : t.Clash us i) : i < us.length := by
  obtain ⟨u, hu, -⟩ := h
  exact (List.getElem?_eq_some_iff.mp hu).1

/-- Among users at the front, those behind do not matter. -/
theorem clash_append_left (hi : i < us.length) : t.Clash (us ++ vs) i ↔ t.Clash us i := by
  rw [Clash, Clash, List.getElem?_append_left hi, List.take_append_of_le_length (Nat.le_of_lt hi)]

/-- For users behind, those at the front are as good as rows of the table. -/
theorem clash_append_right : t.Clash (us ++ vs) (us.length + i) ↔ (t.append us).Clash vs i := by
  rw [Clash, Clash, List.getElem?_append_right (Nat.le_add_right _ _), Nat.add_sub_cancel_left,
    List.take_length_add_append]
  simp only [exists_mem_rows_append, List.mem_append, or_and_right, exists_or, or_assoc]

/-- A clash at the very front is one with a row. -/
theorem clash_zero : t.Clash (u :: us) 0 ↔ t.isTaken u.username none = true := by
  simp [Clash, isTaken_none_iff]

/-- Whether users clash is a matter of their names. -/
theorem clash_map {f : UserInput → UserInput} (hf : ∀ u, (f u).username = u.username) :
    t.Clash (us.map f) i ↔ t.Clash us i := by
  simp [Clash, ← List.map_take, hf]

/-! ### Statements -/

/-- **A statement without a clash inserts all its users.** -/
theorem insertAll_of_free (h : ∀ i, ¬ t.Clash us i) : t.insertAll us = .ok (t.append us) := by
  induction us generalizing t with
  | nil => rw [insertAll, append_nil]
  | cons u r ih =>
    have hu : t.isTaken u.username none = false := by
      rw [← Bool.not_eq_true, ← clash_zero]
      exact h 0
    have hr : ∀ i, ¬ (t.append [u]).Clash r i := fun i hi => h _ (clash_append_right.mpr hi)
    rw [insertAll, insert_of_free hu, ← List.singleton_append (l := r), ← append_append]
    exact ih hr

/-- **A statement with a clash inserts nothing.** -/
theorem insertAll_of_clash (h : t.Clash us i) : t.insertAll us = .error duplicate := by
  induction us generalizing t i with
  | nil => exact absurd h.lt (Nat.not_lt_zero i)
  | cons u r ih =>
    cases hu : t.isTaken u.username none with
    | true => rw [insertAll, insert, hu, if_pos rfl]
    | false =>
      cases i with
      | zero => exact absurd (clash_zero.mp h) (by rw [hu]; exact Bool.false_ne_true)
      | succ i =>
        rw [Nat.add_comm, ← List.singleton_append] at h
        rw [insertAll, insert_of_free hu]
        exact ih (clash_append_right.mp h)

end Table

/-! ## Worlds -/

theorem Dict.insert_insert {α : Type} (d : Dict α) (k : String) (v v' : α) :
    (d.insert k v).insert k v' = d.insert k v' := by
  refine Dict.ext_get? fun j => ?_
  simp only [Dict.get?_insert]
  split <;> rfl

theorem Dict.insert_self {α : Type} {d : Dict α} {k : String} {v : α} (h : d.get? k = some v) :
    d.insert k v = d := by
  refine Dict.ext_get? fun j => ?_
  rw [Dict.get?_insert]
  split
  · rename_i hj
    rw [← hj, h]
  · rfl

theorem Disk.setDatabase_setDatabase (d : Disk) (p : Place) (db db' : Database) :
    (d.setDatabase p db).setDatabase p db' = d.setDatabase p db' := by
  cases p <;> simp only [setDatabase, Dict.insert_insert]

theorem Database.setUsers_setUsers (db : Database) (t t' : Table) :
    (db.setUsers t).setUsers t' = db.setUsers t' := by
  simp only [setUsers, Dict.insert_insert]

theorem Database.get?_of_users {db : Database} {t : Table} (h : db.users = .ok t) :
    db.tables.get? Entity.users.name = some t := by
  unfold users at h
  split at h
  · cases h
    assumption
  · cases h

theorem Database.setUsers_self {db : Database} {t : Table} (h : db.users = .ok t) :
    db.setUsers t = db := by
  rw [setUsers, Dict.insert_self (get?_of_users h)]

/-- Writing a database to where it is changes nothing, as long as there is a table in it. -/
theorem Disk.setDatabase_self {d : Disk} {p : Place} {db : Database} {t : Table}
    (h : d.database p = .ok db) (ht : db.users = .ok t) : d.setDatabase p db = d := by
  have hne : db ≠ .empty := by
    rintro rfl
    cases ht
  cases p with
  | memory name =>
    rw [database, Except.ok.injEq] at h
    cases hget : d.memories.get? name with
    | none => exact absurd (by rw [hget] at h; exact h.symm) hne
    | some db' =>
      obtain rfl : db' = db := by rwa [hget] at h
      rw [setDatabase, Dict.insert_self hget]
  | file path =>
    cases hget : d.files.get? path with
    | none =>
      simp only [database, hget] at h
      split at h
      · cases h
      · exact absurd (Except.ok.inj h).symm hne
    | some content =>
      cases content with
      | text s =>
        simp only [database, hget] at h
        split at h
        · exact absurd (Except.ok.inj h).symm hne
        · cases h
      | database db' =>
        simp only [database, hget] at h
        obtain rfl := Except.ok.inj h
        rw [setDatabase, Dict.insert_self hget]

namespace World

/-- The world in which a pool leads to another table of the users. -/
def withTable (w : World) (pool : Pool) (t : Table) : World :=
  match w.disk.database pool.place with
  | .ok db => { w with disk := w.disk.setDatabase pool.place (db.setUsers t) }
  | .error _ => w

variable {w : World} {pool : Pool} {t : Table}

theorem withTable_self (h : pool.table w.disk = .ok t) : w.withTable pool t = w := by
  obtain ⟨db, hdb, ht⟩ := Pool.table_eq_ok_iff.mp h
  simp only [withTable, hdb, Database.setUsers_self ht, Disk.setDatabase_self hdb ht]

theorem table_withTable (h : pool.table w.disk = .ok t) (t' : Table) :
    pool.table (w.withTable pool t').disk = .ok t' := by
  obtain ⟨db, hdb, -⟩ := Pool.table_eq_ok_iff.mp h
  refine Pool.table_eq_ok_iff.mpr ⟨db.setUsers t', ?_, db.users_setUsers t'⟩
  simp only [withTable, hdb, Disk.database_setDatabase]

theorem withTable_withTable (w : World) (pool : Pool) (t t' : Table) :
    (w.withTable pool t).withTable pool t' = w.withTable pool t' := by
  unfold withTable
  cases hdb : w.disk.database pool.place with
  | error f => simp only [hdb]
  | ok db => simp only [Disk.database_setDatabase, Disk.setDatabase_setDatabase,
      Database.setUsers_setUsers]

/-! ## Batches -/

variable {columns : Columns} {n : Nat} {batch : List UserInput}
  {batches : List (List UserInput)}

/-- **A batch is one statement.** -/
theorem insertEach_cons (hfound : pool.table w.disk = .ok t) (hwritable : pool.writable = true)
    (hlimit : columns.width * batch.length ≤ maxValues) :
    w.insertEach pool columns n (batch :: batches) =
      match t.insertAll (batch.map columns.given) with
      | .ok t' =>
        (w.withTable pool t').insertEach pool columns (n + batch.length) batches
      | .error f => (.error (.execution (.sqlite f)), w) := by
  cases batch with
  | nil =>
    -- no statement is made for an empty batch, and none would change anything
    simp only [List.map_nil, Table.insertAll, withTable_self hfound]
    rfl
  | cons u r =>
    obtain ⟨db, hdb, ht⟩ := Pool.table_eq_ok_iff.mp hfound
    rw [insertEach, if_neg (Nat.not_lt.mpr hlimit)]
    case x_1 => exact List.cons_ne_nil u r
    simp only [Pool.write, hdb, ht, hwritable, withTable, Bool.not_true]
    cases t.insertAll ((u :: r).map columns.given) <;> rfl

/-- **Batches without a clash are all inserted.** -/
theorem insertEach_of_free (hfound : pool.table w.disk = .ok t) (hwritable : pool.writable = true)
    (hlimit : ∀ batch ∈ batches, columns.width * batch.length ≤ maxValues)
    (hfree : ∀ i, ¬ t.Clash (batches.flatten.map columns.given) i) :
    w.insertEach pool columns n batches = (.ok (n + batches.flatten.length),
      w.withTable pool (t.append (batches.flatten.map columns.given))) := by
  induction batches generalizing w t n with
  | nil => rw [List.flatten_nil, List.map_nil, Table.append_nil, withTable_self hfound]; rfl
  | cons batch rest ih =>
    obtain ⟨hbatch, hrest⟩ := List.forall_mem_cons.mp hlimit
    rw [List.flatten_cons, List.map_append] at hfree
    have hfirst : ∀ i, ¬ t.Clash (batch.map columns.given) i := fun i hi =>
      hfree i ((Table.clash_append_left hi.lt).mpr hi)
    have hlater : ∀ i, ¬ (t.append (batch.map columns.given)).Clash
        (rest.flatten.map columns.given) i := fun i hi =>
      hfree _ (Table.clash_append_right.mpr hi)
    rw [insertEach_cons hfound hwritable hbatch, Table.insertAll_of_free hfirst]
    dsimp only
    rw [ih (table_withTable hfound _) hrest hlater, withTable_withTable, Table.append_append,
      List.flatten_cons, List.map_append, List.length_append, Nat.add_assoc]

/-- **Before a clash only the batches are inserted that end before it.** -/
theorem insertEach_of_clash {p : Nat} (hfound : pool.table w.disk = .ok t)
    (hwritable : pool.writable = true)
    (hlimit : ∀ batch ∈ batches, columns.width * batch.length ≤ maxValues)
    (hclash : t.Clash (batches.flatten.map columns.given) p)
    (hfirst : ∀ i < p, ¬ t.Clash (batches.flatten.map columns.given) i) :
    w.insertEach pool columns n batches = (.error (.execution (.sqlite Table.duplicate)),
      w.withTable pool (t.append
        ((batches.flatten.take (itemsBefore batches p)).map columns.given))) := by
  induction batches generalizing w t n p with
  | nil => exact absurd hclash.lt (Nat.not_lt_zero p)
  | cons batch rest ih =>
    obtain ⟨hbatch, hrest⟩ := List.forall_mem_cons.mp hlimit
    rw [List.flatten_cons, List.map_append] at hclash hfirst
    rw [insertEach_cons hfound hwritable hbatch, itemsBefore, List.flatten_cons]
    by_cases hp : p < batch.length
    · have hhere : t.Clash (batch.map columns.given) p :=
        (Table.clash_append_left (by rwa [List.length_map])).mp hclash
      rw [Table.insertAll_of_clash hhere, if_pos hp, List.take_zero, List.map_nil,
        Table.append_nil, withTable_self hfound]
    · obtain ⟨j, rfl⟩ : ∃ j, p = (batch.map columns.given).length + j :=
        ⟨p - batch.length, by rw [List.length_map]; omega⟩
      have hfree : ∀ i, ¬ t.Clash (batch.map columns.given) i := fun i hi =>
        hfirst i (Nat.lt_of_lt_of_le hi.lt (Nat.le_add_right _ _))
          ((Table.clash_append_left hi.lt).mpr hi)
      have hlater : ∀ i < j, ¬ (t.append (batch.map columns.given)).Clash
          (rest.flatten.map columns.given) i := fun i hi h =>
        hfirst _ (Nat.add_lt_add_left hi _) (Table.clash_append_right.mpr h)
      rw [Table.insertAll_of_free hfree, if_neg hp]
      dsimp only
      rw [ih (table_withTable hfound _) hrest (Table.clash_append_right.mp hclash) hlater,
        withTable_withTable, Table.append_append, ← List.map_append, List.length_map,
        Nat.add_sub_cancel_left, List.take_length_add_append]

/-- **What is inserted for every batch size.** A connection that may write leads to a table of the
users, and no statement has more values than a statement may have. If no name is taken, all users
are inserted in order, under the ids that come next, whatever the size of the batches. Else it is
the engine's failure for a name that is taken, and inserted are the batches that end before the
first user whose name is: as many users as full batches hold, and none if all is one batch. Ids
stay in order, so those that are given are new, and nothing else is changed. -/
theorem bulkInsert_keeps_full_batches (hfound : pool.table w.disk = .ok t)
    (hwritable : pool.writable = true) (columns : Columns) (us : List UserInput)
    (batchSize : Option Nat)
    (hlimit : ∀ batch ∈ (Batches.ofList us batchSize).toList,
      columns.width * batch.length ≤ maxValues) :
    ((∀ p, ¬ t.Clash us p) → w.bulkInsert pool us batchSize columns =
      (.ok us.length, w.withTable pool (t.append (us.map columns.given)))) ∧
    (∀ p, t.Clash us p → (∀ i < p, ¬ t.Clash us i) →
      w.bulkInsert pool us batchSize columns = (.error (.execution (.sqlite Table.duplicate)),
        w.withTable pool (t.append ((us.take (Batches.kept batchSize p)).map columns.given)))) ∧
    (DbError.execution (.sqlite Table.duplicate)).kind? = some .integrityViolation ∧
    (t.Ordered → ∀ vs, (t.append vs).Ordered) := by
  have hall : (Batches.ofList us batchSize).toList.flatten = us :=
    Batches.flatten_toList us batchSize
  have hnames : ∀ i, t.Clash (us.map columns.given) i ↔ t.Clash us i := fun i =>
    Table.clash_map fun _ => rfl
  refine ⟨fun hfree => ?_, fun p hclash hfirst => ?_, rfl, Table.Ordered.append⟩
  · have h := insertEach_of_free (n := 0) hfound hwritable hlimit (by
      rw [hall]
      exact fun i hi => hfree i ((hnames i).mp hi))
    rwa [hall, Nat.zero_add] at h
  · have h := insertEach_of_clash (n := 0) (p := p) hfound hwritable hlimit
      (by rwa [hall, hnames]) (by
        rw [hall]
        exact fun i hi h => hfirst i hi ((hnames i).mp h))
    rwa [hall, Batches.itemsBefore_toList hclash.lt] at h

/-- The third of four users is there already, and the first two are a batch. -/
theorem bulkInsert_keeps_full_batches_pair :
    let w := World.onFile true .ofAda
    let us : List UserInput := ["bob", "eve", "ada", "tom"].map ({ username := · })
    (Pool.onFile true).table w.disk = .ok .ofAda ∧ (Pool.onFile true).writable = true ∧
    (∀ batch ∈ (Batches.ofList us (some 2)).toList,
      ({} : Columns).width * batch.length ≤ maxValues) ∧
    (Table.ofAda.Clash us 2 ∧ ∀ i < 2, ¬ Table.ofAda.Clash us i) ∧
    w.bulkInsert (.onFile true) us (some 2) {} =
      (.error (.execution (.sqlite (.unique "users.username"))), w.withTable (.onFile true)
        (Table.ofAda.append [{ username := "bob" }, { username := "eve" }])) := by
  intro w us
  have hlimit : ∀ batch ∈ (Batches.ofList us (some 2)).toList,
      ({} : Columns).width * batch.length ≤ maxValues := by decide
  have hclash : Table.ofAda.Clash us 2 := by decide
  have hfirst : ∀ i < 2, ¬ Table.ofAda.Clash us i := by decide
  exact ⟨rfl, rfl, hlimit, ⟨hclash, hfirst⟩,
    (bulkInsert_keeps_full_batches (w := w) (t := .ofAda) rfl rfl {} us (some 2) hlimit).2.1 2
      hclash hfirst⟩

end World

end DbLifecycle
