import DbLifecycle.Database.Registry
import Mathlib.Data.List.Nodup
import Mathlib.Data.List.Range

/-!
# Opening and closing pools

What the registry does to its pools, whatever the driver answers. A run is followed by the aliases
that were attempted, the pools that were opened, and those that closing was asked of.

* `World.Keeps`: a step that leaves all pools alone.
* `World.Closes`, **`World.closeEach_closes`**: closing some aliases asks each of their pools once.
* `World.Opens`: connections opened one after another.
* **`World.openEach_opening`**: opening ends with all connections open, or at the first that fails.
-/

namespace DbLifecycle

/-! ## What happened to pools -/

/-- The alias that a pool was asked for. -/
def Event.attempt? : Event → Option String
  | .opened aliasName _ | .openFailed aliasName _ => some aliasName
  | _ => none

/-- The pool that was opened. -/
def Event.created? : Event → Option Nat
  | .opened _ pool => some pool
  | _ => none

namespace World

/-- The aliases that pools were asked for, in order, whether or not they were opened. -/
def attempts (w : World) : List String := w.events.filterMap Event.attempt?

/-- The pools that were opened, in order. -/
def created (w : World) : List Nat := w.events.filterMap Event.created?

/-- The number of the pool of an alias. -/
def poolId? (w : World) (aliasName : String) : Option Nat :=
  (w.pools.get? aliasName).map (·.id)

section Fields

variable (w : World) (e : Event) (pool : Pool)

@[simp] theorem pools_log : (w.log e).pools = w.pools := rfl

@[simp] theorem disk_log : (w.log e).disk = w.disk := rfl

@[simp] theorem nextPool_log : (w.log e).nextPool = w.nextPool := rfl

@[simp] theorem retired_log : (w.log e).retired = w.retired := rfl

@[simp] theorem aliases_log : (w.log e).aliases = w.aliases := rfl

@[simp] theorem attempts_log : (w.log e).attempts = w.attempts ++ e.attempt?.toList := by
  unfold attempts log
  rw [List.filterMap_append]
  cases h : e.attempt? <;> simp [h]

@[simp] theorem created_log : (w.log e).created = w.created ++ e.created?.toList := by
  unfold created log
  rw [List.filterMap_append]
  cases h : e.created? <;> simp [h]

@[simp] theorem pools_drop : (w.drop pool).pools = w.pools := by unfold drop; split <;> rfl

@[simp] theorem nextPool_drop : (w.drop pool).nextPool = w.nextPool := by
  unfold drop; split <;> rfl

@[simp] theorem retired_drop : (w.drop pool).retired = w.retired := by unfold drop; split <;> rfl

@[simp] theorem events_drop : (w.drop pool).events = w.events := by unfold drop; split <;> rfl

end Fields

/-! ## Steps that leave pools alone -/

/-- No pool was opened, closed, or asked for. -/
structure Keeps (w w' : World) : Prop where
  pools : w'.pools = w.pools
  nextPool : w'.nextPool = w.nextPool
  retired : w'.retired = w.retired
  attempts : w'.attempts = w.attempts
  created : w'.created = w.created

namespace Keeps

theorem refl (w : World) : Keeps w w := ⟨rfl, rfl, rfl, rfl, rfl⟩

theorem trans {u v w : World} (huv : Keeps u v) (hvw : Keeps v w) : Keeps u w where
  pools := hvw.pools.trans huv.pools
  nextPool := hvw.nextPool.trans huv.nextPool
  retired := hvw.retired.trans huv.retired
  attempts := hvw.attempts.trans huv.attempts
  created := hvw.created.trans huv.created

/-- Most events are not about pools. -/
theorem log (w : World) {e : Event} (ha : e.attempt? = none) (hc : e.created? = none) :
    Keeps w (w.log e) where
  pools := rfl
  nextPool := rfl
  retired := rfl
  attempts := by rw [attempts_log, ha, Option.toList_none, List.append_nil]
  created := by rw [created_log, hc, Option.toList_none, List.append_nil]

theorem setDisk (w : World) (disk : Disk) : Keeps w { w with disk } := ⟨rfl, rfl, rfl, rfl, rfl⟩

theorem aliases {w w' : World} (h : Keeps w w') : w'.aliases = w.aliases := by
  unfold World.aliases
  rw [h.pools]

end Keeps

/-! ## Closing -/

/-- Some aliases were closed: nothing is open under them, and closing was asked of the pool of each,
once. Other aliases are as they were. -/
structure Closes (w : World) (aliases : List String) (w' : World) : Prop where
  get? : ∀ a, w'.pools.get? a = if a ∈ aliases then none else w.pools.get? a
  nextPool : w'.nextPool = w.nextPool
  retired : aliases.Nodup → w'.retired = w.retired ++ aliases.filterMap w.poolId?
  attempts : w'.attempts = w.attempts
  created : w'.created = w.created

namespace Closes

theorem nil (w : World) : Closes w [] w where
  get? _ := by simp
  nextPool := rfl
  retired _ := by simp
  attempts := rfl
  created := rfl

/-- Nothing is to be done for an alias that is not open. -/
theorem skip {w w' : World} {a : String} {r : List String} (h : Closes w r w')
    (ha : w.pools.get? a = none) : Closes w (a :: r) w' where
  get? b := by
    rw [h.get?]
    by_cases hb : b = a
    · subst hb
      simp [ha]
    · simp [hb]
  nextPool := h.nextPool
  retired hn := by
    have hid : w.poolId? a = none := by simp [poolId?, ha]
    rw [h.retired (List.nodup_cons.mp hn).2, List.filterMap_cons_none hid]
  attempts := h.attempts
  created := h.created

/-- A step of closing, followed by others. -/
theorem cons {w v w' : World} {a : String} {pool : Pool} {r : List String}
    (ha : w.pools.get? a = some pool) (hpools : v.pools = w.pools.erase a)
    (hretired : v.retired = w.retired ++ [pool.id]) (hnext : v.nextPool = w.nextPool)
    (hatt : v.attempts = w.attempts) (hcr : v.created = w.created) (h : Closes v r w') :
    Closes w (a :: r) w' where
  get? b := by
    rw [h.get?, hpools, Dict.get?_erase]
    by_cases hb : b = a
    · subst hb
      simp
    · simp [hb, Ne.symm hb]
  nextPool := h.nextPool.trans hnext
  retired hn := by
    obtain ⟨har, hr⟩ := List.nodup_cons.mp hn
    have hid : w.poolId? a = some pool.id := by simp [poolId?, ha]
    have hrest : r.filterMap v.poolId? = r.filterMap w.poolId? :=
      List.filterMap_congr fun b hb => by
        have hab : a ≠ b := fun hab => har (hab ▸ hb)
        rw [poolId?, poolId?, hpools, Dict.get?_erase, if_neg hab]
    rw [h.retired hr, hretired, hrest, List.filterMap_cons_some hid, List.append_assoc,
      List.singleton_append]
  attempts := h.attempts.trans hatt
  created := h.created.trans hcr

/-- Further steps may leave the pools alone. -/
theorem keeps {w v w' : World} {aliases : List String} (h : Closes w aliases v)
    (hk : Keeps v w') : Closes w aliases w' where
  get? a := by rw [hk.pools, h.get?]
  nextPool := hk.nextPool.trans h.nextPool
  retired hn := hk.retired.trans (h.retired hn)
  attempts := hk.attempts.trans h.attempts
  created := hk.created.trans h.created

/-- Closing all there is leaves nothing open. -/
theorem pools_eq_empty {w w' : World} {aliases : List String} (h : Closes w aliases w')
    (hall : ∀ a ∈ w.aliases, a ∈ aliases) : w'.pools = .empty :=
  Dict.ext_get? fun a => by
    rw [h.get?, Dict.get?_empty]
    by_cases ha : a ∈ aliases
    · rw [if_pos ha]
    · rw [if_neg ha]
      exact Dict.get?_eq_none_iff.mpr fun hk => ha (hall a hk)

end Closes

section Close

variable (driver : Driver)

theorem closePool_keeps (w : World) (aliasName : String) (pool : Pool) :
    Keeps { w with retired := w.retired ++ [pool.id] } (w.closePool driver aliasName pool).2 := by
  have hdrop : Keeps { w with retired := w.retired ++ [pool.id] }
      { w.drop pool with retired := w.retired ++ [pool.id] } := by
    refine ⟨?_, ?_, rfl, ?_, ?_⟩ <;> simp [attempts, created]
  unfold closePool
  cases driver.close pool.toLink with
  | error e => exact hdrop
  | ok u => exact hdrop.trans (.log _ rfl rfl)

/-- **Closing asks the pool of each alias once**, whatever the driver answers. -/
theorem closeEach_closes (w : World) (aliases : List String) :
    Closes w aliases (w.closeEach driver aliases).2 := by
  induction aliases generalizing w with
  | nil => exact .nil w
  | cons a r ih =>
    rw [closeEach]
    cases ha : w.pools.get? a with
    | none => exact (ih w).skip ha
    | some pool =>
      have hk := closePool_keeps driver { w with pools := w.pools.erase a } a pool
      exact .cons ha hk.pools hk.retired hk.nextPool hk.attempts hk.created (ih _)

theorem closeAliases_closes (w : World) (aliases : List String) :
    Closes w aliases (w.closeAliases driver aliases).2 := by
  have hc := closeEach_closes driver w aliases
  unfold closeAliases
  split
  rename_i reports v hv
  rw [hv] at hc
  cases firstError? reports with
  | none => exact hc
  | some e => exact hc.keeps (.log _ rfl rfl)

/-- Closing never panics. -/
theorem closeAliases_isPanic (w : World) (aliases : List String) :
    (w.closeAliases driver aliases).1.isPanic = false := by
  unfold closeAliases
  split
  rename_i reports v hv
  cases firstError? reports <;> rfl

theorem files_drop (w : World) (pool : Pool) : (w.drop pool).disk.files = w.disk.files := by
  unfold drop
  split
  · rfl
  · cases pool.place <;> rfl

/-- Closing changes no file. -/
theorem files_closeEach (w : World) (aliases : List String) :
    (w.closeEach driver aliases).2.disk.files = w.disk.files := by
  have hpool : ∀ (w : World) (a : String) (pool : Pool),
      (w.closePool driver a pool).2.disk.files = w.disk.files := by
    intro w a pool
    unfold closePool
    cases driver.close pool.toLink <;> exact files_drop w pool
  induction aliases generalizing w with
  | nil => rfl
  | cons a r ih =>
    rw [closeEach]
    cases w.pools.get? a with
    | none => exact ih w
    | some pool => exact (ih _).trans (hpool _ a pool)

theorem files_closeAliases (w : World) (aliases : List String) :
    (w.closeAliases driver aliases).2.disk.files = w.disk.files := by
  have hfiles := files_closeEach driver w aliases
  unfold closeAliases
  split
  rename_i reports v hv
  rw [hv] at hfiles
  cases firstError? reports <;> exact hfiles

theorem files_undo (w : World) (done : List String) :
    (w.undo driver done).disk.files = w.disk.files := by
  have hfiles := files_closeAliases driver w done
  unfold undo
  split <;> rename_i hv <;> rw [hv] at hfiles <;> exact hfiles

theorem closeAll_closes (w : World) : Closes w w.aliases (w.closeAll driver).2 :=
  closeAliases_closes driver w w.aliases

theorem undo_closes (w : World) (done : List String) : Closes w done (w.undo driver done) := by
  have hc := closeAliases_closes driver w done
  unfold undo
  split
  · rename_i e v hv
    rw [hv] at hc
    exact hc.keeps (.log _ rfl rfl)
  · rename_i v hv
    rw [hv] at hc
    exact hc

end Close

/-! ## Opening -/

section Place

variable (w : World) (aliasName : String) (link : Link)

@[simp] theorem pools_place : (w.place aliasName link).pools =
    w.pools.insert aliasName { link with id := w.nextPool } := by
  unfold place
  cases w.pools.get? aliasName <;> simp

@[simp] theorem nextPool_place : (w.place aliasName link).nextPool = w.nextPool + 1 := by
  unfold place
  cases w.pools.get? aliasName <;> simp

@[simp] theorem retired_place : (w.place aliasName link).retired = w.retired := by
  unfold place
  cases w.pools.get? aliasName <;> simp

theorem events_place : (w.place aliasName link).events =
    w.events ++ [.opened aliasName w.nextPool] := by
  unfold place log
  cases w.pools.get? aliasName <;> simp

@[simp] theorem attempts_place : (w.place aliasName link).attempts = w.attempts ++ [aliasName] := by
  rw [attempts, events_place, List.filterMap_append]
  rfl

@[simp] theorem created_place : (w.place aliasName link).created = w.created ++ [w.nextPool] := by
  rw [created, events_place, List.filterMap_append]
  rfl

theorem mem_aliases_place {a : String} :
    a ∈ (w.place aliasName link).aliases ↔ a = aliasName ∨ a ∈ w.aliases := by
  unfold aliases
  rw [pools_place, Dict.mem_keys_insert]

end Place

/-- Connections are opened one after another, and none of them fails. -/
inductive Opens (driver : Driver) : World → List Request → World → Prop
  | nil (w : World) : Opens driver w [] w
  | cons {w w' : World} {q : Request} {r : List Request} {disk : Disk} {link : Link}
      (hq : driver.openPool q.url q.settings w.disk = .ok (disk, link))
      (hr : Opens driver ({ w with disk }.place q.aliasName link) r w') : Opens driver w (q :: r) w'

/-- What happened to the pools while some connections were opened. -/
structure Opened (w : World) (qs : List Request) (w' : World) : Prop where
  mem_aliases : ∀ a, a ∈ w'.aliases ↔ a ∈ qs.map (·.aliasName) ∨ a ∈ w.aliases
  nextPool : w'.nextPool = w.nextPool + qs.length
  retired : w'.retired = w.retired
  attempts : w'.attempts = w.attempts ++ qs.map (·.aliasName)
  created : w'.created = w.created ++ List.range' w.nextPool qs.length
  poolIds : (qs.map (·.aliasName)).Nodup →
    (qs.map (·.aliasName)).filterMap w'.poolId? = List.range' w.nextPool qs.length

namespace Opens

variable {driver : Driver} {w w' : World} {qs : List Request}

theorem get?_of_notMem (h : Opens driver w qs w') {a : String}
    (ha : a ∉ qs.map (·.aliasName)) : w'.pools.get? a = w.pools.get? a := by
  induction h with
  | nil w => rfl
  | cons hq hr ih =>
    rw [List.map_cons, List.mem_cons, not_or] at ha
    rw [ih ha.2, pools_place, Dict.get?_insert, if_neg (Ne.symm ha.1)]

/-- **Every opened pool gets the next number**, under its alias. -/
theorem opened (h : Opens driver w qs w') : Opened w qs w' := by
  induction h with
  | nil w =>
    refine ⟨fun a => ?_, rfl, rfl, ?_, ?_, fun _ => rfl⟩ <;> simp
  | @cons w w' q r disk link hq hr ih =>
    refine ⟨fun a => ?_, ?_, ?_, ?_, ?_, fun hn => ?_⟩
    · rw [ih.mem_aliases, mem_aliases_place, List.map_cons, List.mem_cons]
      exact or_left_comm.trans or_assoc.symm
    · rw [ih.nextPool, nextPool_place, List.length_cons]
      show w.nextPool + 1 + r.length = w.nextPool + (r.length + 1)
      omega
    · rw [ih.retired, retired_place]
    · rw [ih.attempts, attempts_place, List.map_cons, List.append_assoc, List.singleton_append]
      rfl
    · rw [ih.created, created_place, nextPool_place, List.append_assoc, List.singleton_append,
        List.length_cons, List.range'_succ]
      rfl
    · rw [List.map_cons] at hn ⊢
      obtain ⟨hqr, hr'⟩ := List.nodup_cons.mp hn
      have hid : w'.poolId? q.aliasName = some w.nextPool := by
        rw [poolId?, get?_of_notMem hr hqr, pools_place, Dict.get?_insert, if_pos rfl]
        rfl
      rw [List.filterMap_cons_some hid, ih.poolIds hr', nextPool_place, List.length_cons,
        List.range'_succ]

end Opens

/-- How opening connections can end: with all of them, or at the first that is not opened. When it
fails, `done` and those before it are closed. -/
inductive Opening (driver : Driver) (done : List String) (w : World) (qs : List Request) :
    Outcome Error Unit × World → Prop
  | opened {w' : World} (h : Opens driver w qs w') : Opening driver done w qs (.ok (), w')
  | refused {pre post : List Request} {q : Request} {v : World} {cause : DbError}
      (hqs : qs = pre ++ q :: post) (h : Opens driver w pre v)
      (hq : driver.openPool q.url q.settings v.disk = .error cause) :
      Opening driver done w qs (.error (.connection cause),
        (v.log (.openFailed q.aliasName cause)).undo driver (done ++ pre.map (·.aliasName)))
  | panicked {pre post : List Request} {q : Request} {v : World} {text : String}
      (hqs : qs = pre ++ q :: post) (h : Opens driver w pre v)
      (hq : driver.openPool q.url q.settings v.disk = .panic text) :
      Opening driver done w qs (.panic text, v)

/-- What is opened first comes before what the rest gives. -/
theorem Opening.cons {driver : Driver} {done : List String} {w : World} {q : Request}
    {r : List Request} {disk : Disk} {link : Link} {end_ : Outcome Error Unit × World}
    (hq : driver.openPool q.url q.settings w.disk = .ok (disk, link))
    (h : Opening driver (done ++ [q.aliasName]) ({ w with disk }.place q.aliasName link) r end_) :
    Opening driver done w (q :: r) end_ := by
  cases h with
  | opened h => exact .opened (.cons hq h)
  | @refused pre post q' v cause hqs h hq' =>
    have hdone : done ++ [q.aliasName] ++ pre.map (·.aliasName) =
        done ++ (q :: pre).map (·.aliasName) := by simp
    rw [hdone]
    exact .refused (by rw [hqs, List.cons_append]) (.cons hq h) hq'
  | panicked hqs h hq' => exact .panicked (by rw [hqs, List.cons_append]) (.cons hq h) hq'

/-- **Opening ends with all connections, or at the first that fails.** -/
theorem openEach_opening (driver : Driver) (done : List String) (w : World) (qs : List Request) :
    Opening driver done w qs (w.openEach driver done qs) := by
  induction qs generalizing w done with
  | nil => exact .opened (.nil w)
  | cons q r ih =>
    rw [openEach]
    split
    · rename_i disk link hq
      exact .cons hq (ih _ _)
    · rename_i e hq
      have h : Opening driver done w (q :: r) (.error (.connection e),
          (w.log (.openFailed q.aliasName e)).undo driver (done ++ [])) :=
        .refused (List.nil_append (q :: r)).symm (.nil w) hq
      rwa [List.append_nil] at h
    · rename_i text hq
      exact .panicked (List.nil_append (q :: r)).symm (.nil w) hq

/-- Opening panics only if the driver does. -/
theorem openAll_isPanic {driver : Driver}
    (hd : ∀ url o d, (driver.connect url o d).isPanic = false) (w : World) (c : Config) :
    (w.openAll driver c).1.isPanic = false := by
  unfold openAll
  cases requests c with
  | error e => rfl
  | ok qs =>
    have hopen := openEach_opening driver [] w qs
    dsimp only
    generalize w.openEach driver [] qs = end_ at hopen ⊢
    cases hopen with
    | opened _ => rfl
    | refused _ _ _ => rfl
    | @panicked _ _ q v text _ _ hq =>
      have hnp := hd q.url (.ofUrl q.url q.settings) v.disk
      rw [show driver.connect q.url (.ofUrl q.url q.settings) v.disk = .panic text from hq] at hnp
      cases hnp

end World

end DbLifecycle
