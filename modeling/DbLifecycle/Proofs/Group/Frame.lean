import Mathlib.Data.List.Nodup
import DbLifecycle.Proofs.Group.Story

/-!
# What the parts of a step change

Each part of a step is told by the fields that it changes, and by what is in them afterwards.

* `TaskId.child`: places of tasks, told apart.
* `Gathering.log_record`, `Gathering.log_mark_self`: the log of a task.
* `Gathering.wake_eq`, `Gathering.startAll_eq`, `Gathering.abortAll_eq`: the queue, and the tasks
  that are started or to be cancelled.
* `Gathering.finish_of_waiting`, `Gathering.finish_of_not_waiting`: the end of a task, with an owner
  that waits for it and without.
* `Gathering.reaction_same`, `Gathering.review_of_waiting`: an owner that looks at its results.
-/

namespace DbLifecycle

/-! ## Places -/

namespace TaskId

theorem child_injective {x y : TaskId} {i j : Nat} (h : x.child i = y.child j) : x = y ∧ i = j := by
  obtain ⟨o, p⟩ := x
  obtain ⟨o', p'⟩ := y
  simp only [child, mk.injEq] at h
  obtain ⟨rfl, hp⟩ := h
  obtain ⟨rfl, hi⟩ := List.append_inj' hp rfl
  exact ⟨rfl, List.head_eq_of_cons_eq hi⟩

@[simp]
theorem child_inj {x y : TaskId} {i j : Nat} : x.child i = y.child j ↔ x = y ∧ i = j :=
  ⟨child_injective, fun h => by rw [h.1, h.2]⟩

@[simp]
theorem child_ne_root (x : TaskId) (i : Nat) : x.child i ≠ .root := by
  simp [child, root]

@[simp]
theorem child_ne_outer (x : TaskId) (i : Nat) : x.child i ≠ .outer := by
  simp [child, outer]

@[simp]
theorem child_ne (x : TaskId) (i : Nat) : x.child i ≠ x := by
  obtain ⟨o, p⟩ := x
  simp [child]

@[simp]
theorem ne_child (x : TaskId) (i : Nat) : x ≠ x.child i := (child_ne x i).symm

/-- A task is the owner of a group, one of its tasks, or neither. -/
theorem cases_of_group (id x : TaskId) (ms : List Member) :
    x = id ∨ (∃ i m, ms[i]? = some m ∧ x = id.child i) ∨
      x ≠ id ∧ ∀ i < ms.length, x ≠ id.child i := by
  by_cases hx : x = id
  · exact .inl hx
  by_cases hchild : ∃ i < ms.length, x = id.child i
  · obtain ⟨i, hi, rfl⟩ := hchild
    exact .inr (.inl ⟨i, ms[i], List.getElem?_eq_getElem hi, rfl⟩)
  · exact .inr (.inr ⟨hx, fun i hi heq => hchild ⟨i, hi, heq⟩⟩)

theorem root_ne_outer : (root : TaskId) ≠ outer := by decide

theorem exists_child {x : TaskId} (hroot : x ≠ .root) (houter : x ≠ .outer) :
    ∃ (y : TaskId) (i : Nat), x = y.child i := by
  obtain ⟨o, p⟩ := x
  rcases List.eq_nil_or_concat p with rfl | ⟨q, i, rfl⟩
  · cases o
    · exact absurd rfl hroot
    · exact absurd rfl houter
  · exact ⟨⟨o, q⟩, i, by simp [child]⟩

theorem eq_child_of_parent? {x owner : TaskId} {place : Nat} (h : x.parent? = some (owner, place)) :
    x = owner.child place := by
  by_cases htop : x = .root ∨ x = .outer
  · rcases htop with rfl | rfl <;> cases h
  · obtain ⟨y, i, rfl⟩ := exists_child (fun heq => htop (.inl heq)) fun heq => htop (.inr heq)
    rw [parent?_child] at h
    cases h
    rfl

end TaskId

/-! ## Tasks -/

/-- Whether a task has been called into being and has not ended. -/
def Task.isAlive : Task → Bool
  | .ended => false
  | _ => true

/-- Whether a task waits for its group. -/
def Task.isWaiting : Task → Bool
  | .waiting _ _ => true
  | _ => false

theorem Task.eq_ended {t : Task} (h : t.isAlive = false) : t = .ended := by
  cases t <;> first | rfl | cases h

namespace Gathering

variable (g : Gathering)

/-! ## Records -/

theorem record_eq (es : List Entry) : g.record es = { g with
    entries := if g.returned.isNone then g.entries ++ es else g.entries
    later := if g.returned.isNone then g.later else g.later ++ es } := by
  unfold record
  split <;> simp [*]

@[simp]
theorem record_now (es : List Entry) : (g.record es).now = g.now := by rw [record_eq]

@[simp]
theorem record_tasks (es : List Entry) : (g.record es).tasks = g.tasks := by rw [record_eq]

@[simp]
theorem record_queue (es : List Entry) : (g.record es).queue = g.queue := by rw [record_eq]

@[simp]
theorem record_doomed (es : List Entry) : (g.record es).doomed = g.doomed := by rw [record_eq]

@[simp]
theorem record_alarms (es : List Entry) : (g.record es).alarms = g.alarms := by rw [record_eq]

@[simp]
theorem record_called (es : List Entry) : (g.record es).called = g.called := by rw [record_eq]

@[simp]
theorem record_left (es : List Entry) : (g.record es).left = g.left := by rw [record_eq]

@[simp]
theorem record_deferred (es : List Entry) : (g.record es).deferred = g.deferred := by
  rw [record_eq]

@[simp]
theorem record_returned (es : List Entry) : (g.record es).returned = g.returned := by
  rw [record_eq]

@[simp]
theorem mark_now (id : TaskId) (what : Mark) : (g.mark id what).now = g.now :=
  g.record_now _

@[simp]
theorem mark_tasks (id : TaskId) (what : Mark) : (g.mark id what).tasks = g.tasks :=
  g.record_tasks _

@[simp]
theorem mark_queue (id : TaskId) (what : Mark) : (g.mark id what).queue = g.queue :=
  g.record_queue _

@[simp]
theorem mark_doomed (id : TaskId) (what : Mark) : (g.mark id what).doomed = g.doomed :=
  g.record_doomed _

@[simp]
theorem mark_alarms (id : TaskId) (what : Mark) : (g.mark id what).alarms = g.alarms :=
  g.record_alarms _

@[simp]
theorem mark_left (id : TaskId) (what : Mark) : (g.mark id what).left = g.left :=
  g.record_left _

@[simp]
theorem mark_deferred (id : TaskId) (what : Mark) : (g.mark id what).deferred = g.deferred :=
  g.record_deferred _

/-- Until the group returns, nothing is recorded for the time after that. -/
theorem record_later (es : List Entry) (h : g.returned = none) : (g.record es).later = g.later := by
  rw [record_eq, h]
  rfl

theorem records_record (es : List Entry) : (g.record es).records = g.records ++ es := by
  unfold records record
  cases g.returned <;> simp

theorem log_record (es : List Entry) (x : TaskId) :
    (g.record es).log x = g.log x ++ marksOf x es := by
  rw [log, records_record, marksOf_append]
  rfl

/-- A mark is one more for its task. -/
theorem log_mark_self (id : TaskId) (what : Mark) :
    (g.mark id what).log id = g.log id ++ [(g.now, what)] := by
  rw [mark, log_record]
  simp [marksOf, Entry.about]

theorem log_cancelling (t n : Nat) (x : TaskId) :
    (g.record [.cancelling t n]).log x = g.log x := by
  rw [log_record]
  simp [marksOf, Entry.about]

/-- What has been recorded stays so when the group returns. -/
theorem log_return {g : Gathering} (hnone : g.returned = none) (hlater : g.later = []) {t : Task}
    {r : Nat × Ending} (x : TaskId) :
    ({ g.set .root t with returned := some r } : Gathering).log x = g.log x := by
  have hrecords : ({ g.set .root t with returned := some r } : Gathering).records = g.records := by
    simp only [records, hnone]
    exact (congrArg (g.entries ++ ·) hlater).trans (List.append_nil _)
  rw [log, hrecords, log]

/-! ## The queue -/

/-- A queue with one more task, which keeps its place if it is in the queue already. -/
def enqueue (q : List TaskId) (id : TaskId) : List TaskId := if id ∈ q then q else q ++ [id]

theorem mem_enqueue {q : List TaskId} {id x : TaskId} : x ∈ enqueue q id ↔ x ∈ q ∨ x = id := by
  unfold enqueue
  split
  · rename_i hmem
    exact ⟨.inl, fun h => h.elim (fun h => h) fun h => h ▸ hmem⟩
  · simp

theorem nodup_enqueue {q : List TaskId} (h : q.Nodup) (id : TaskId) : (enqueue q id).Nodup := by
  unfold enqueue
  split
  · exact h
  · rename_i hmem
    exact List.nodup_append.mpr ⟨h, List.nodup_singleton id, by
      simpa using fun x hx => ne_of_mem_of_not_mem hx hmem⟩

theorem length_enqueue_le (q : List TaskId) (id : TaskId) :
    (enqueue q id).length ≤ q.length + 1 := by
  unfold enqueue
  split <;> simp

theorem mem_foldl_enqueue {ids q : List TaskId} {x : TaskId} :
    x ∈ ids.foldl enqueue q ↔ x ∈ q ∨ x ∈ ids := by
  induction ids generalizing q with
  | nil => simp
  | cons id ids ih => rw [List.foldl_cons, ih, mem_enqueue, List.mem_cons, or_assoc]

theorem nodup_foldl_enqueue {q : List TaskId} (h : q.Nodup) (ids : List TaskId) :
    (ids.foldl enqueue q).Nodup := by
  induction ids generalizing q with
  | nil => exact h
  | cons id ids ih => exact ih (nodup_enqueue h id)

theorem length_foldl_enqueue_le (q ids : List TaskId) :
    (ids.foldl enqueue q).length ≤ q.length + ids.length := by
  induction ids generalizing q with
  | nil => exact Nat.le_refl _
  | cons id ids ih =>
    have hrest := ih (enqueue q id)
    have hone := length_enqueue_le q id
    rw [List.foldl_cons, List.length_cons]
    omega

theorem wake_root : g.wake .root = { g with called := true } := rfl

theorem wake_of_ne_root {id : TaskId} (h : id ≠ .root) :
    g.wake id = { g with queue := enqueue g.queue id } := by
  unfold wake enqueue
  rw [if_neg h]
  split <;> rfl

/-- Only the queue changes when a task is called, or that the outermost group is called. -/
theorem wake_eq (id : TaskId) : g.wake id = { g with
    queue := if id = .root then g.queue else enqueue g.queue id
    called := g.called || decide (id = .root) } := by
  by_cases h : id = .root
  · subst h
    simp [wake_root]
  · rw [wake_of_ne_root g h]
    simp [h]

@[simp]
theorem wake_now (id : TaskId) : (g.wake id).now = g.now := by rw [wake_eq]

@[simp]
theorem wake_tasks (id : TaskId) : (g.wake id).tasks = g.tasks := by rw [wake_eq]

@[simp]
theorem wake_doomed (id : TaskId) : (g.wake id).doomed = g.doomed := by rw [wake_eq]

@[simp]
theorem wake_alarms (id : TaskId) : (g.wake id).alarms = g.alarms := by rw [wake_eq]

@[simp]
theorem wake_deferred (id : TaskId) : (g.wake id).deferred = g.deferred := by rw [wake_eq]

@[simp]
theorem wake_returned (id : TaskId) : (g.wake id).returned = g.returned := by rw [wake_eq]

@[simp]
theorem wake_entries (id : TaskId) : (g.wake id).entries = g.entries := by rw [wake_eq]

@[simp]
theorem wake_later (id : TaskId) : (g.wake id).later = g.later := by rw [wake_eq]

@[simp]
theorem wake_log (id : TaskId) : (g.wake id).log = g.log := by rw [wake_eq]; rfl

theorem mem_queue_wake {id x : TaskId} :
    x ∈ (g.wake id).queue ↔ x ∈ g.queue ∨ x = id ∧ id ≠ .root := by
  by_cases h : id = .root
  · subst h
    simp [wake_root]
  · simp [wake_of_ne_root g h, mem_enqueue, h]

theorem nodup_queue_wake (h : g.queue.Nodup) (id : TaskId) : (g.wake id).queue.Nodup := by
  rw [wake_eq]
  dsimp only
  split
  · exact h
  · exact nodup_enqueue h id

/-! ## Starting and cancelling tasks -/

/-- The tasks with the first ones of a group. -/
def spawn (ts : TaskId → Task) (owner : TaskId) (place : Nat) : List Member → TaskId → Task
  | [] => ts
  | m :: ms => spawn (fun x => if x = owner.child place then .fresh m else ts x) owner (place + 1) ms

theorem spawn_of_ne {ts : TaskId → Task} {owner x : TaskId} {place : Nat} {ms : List Member}
    (h : ∀ i < ms.length, x ≠ owner.child (place + i)) : spawn ts owner place ms x = ts x := by
  induction ms generalizing ts place with
  | nil => rfl
  | cons m ms ih =>
    rw [spawn, ih fun i hi => by
      rw [Nat.add_assoc, Nat.add_comm 1]
      exact h (i + 1) (Nat.succ_lt_succ hi)]
    exact if_neg (h 0 (Nat.zero_lt_succ _))

theorem spawn_child {ts : TaskId → Task} {owner : TaskId} {place i : Nat} {ms : List Member}
    {m : Member} (h : ms[i]? = some m) :
    spawn ts owner place ms (owner.child (place + i)) = .fresh m := by
  induction ms generalizing ts place i with
  | nil => cases h
  | cons m' ms ih =>
    rw [spawn]
    cases i with
    | zero =>
      cases h
      rw [spawn_of_ne fun i _ h => by rw [TaskId.child_inj] at h; omega]
      exact if_pos rfl
    | succ i =>
      have hrest : spawn (fun x => if x = owner.child place then .fresh m' else ts x) owner
          (place + 1) ms (owner.child (place + 1 + i)) = .fresh m := ih h
      rwa [Nat.add_assoc, Nat.add_comm 1] at hrest

theorem startAll_eq (owner : TaskId) (place : Nat) (ms : List Member) :
    g.startAll owner place ms = { g with
      queue := ((List.range' place ms.length).map owner.child).foldl enqueue g.queue
      tasks := spawn g.tasks owner place ms } := by
  induction ms generalizing g place with
  | nil => rfl
  | cons m ms ih =>
    rw [startAll, wake_of_ne_root _ (TaskId.child_ne_root owner place), ih]
    rfl

/-- The tasks at some places of a group that have not ended. -/
def victims (owner : TaskId) (places : List Nat) : List TaskId :=
  (places.map owner.child).filter fun x => (g.tasks x).isAlive

theorem mem_victims {owner x : TaskId} {places : List Nat} : x ∈ g.victims owner places ↔
    (∃ i ∈ places, owner.child i = x) ∧ (g.tasks x).isAlive = true := by
  simp [victims]

/-- A task that has not ended is to be cancelled, and is called for that. -/
theorem abort_of_isAlive {owner : TaskId} {i : Nat}
    (halive : (g.tasks (owner.child i)).isAlive = true) : g.abort (owner.child i) = { g with
      queue := enqueue g.queue (owner.child i), doomed := owner.child i :: g.doomed } := by
  unfold abort
  split
  · rename_i hended
    rw [hended] at halive
    cases halive
  · exact wake_of_ne_root _ (TaskId.child_ne_root owner i)

theorem abortAll_eq (owner : TaskId) (places : List Nat) :
    g.abortAll owner places = { g with
      queue := (g.victims owner places).foldl enqueue g.queue
      doomed := (g.victims owner places).reverse ++ g.doomed } := by
  induction places generalizing g with
  | nil => rfl
  | cons i places ih =>
    have hfold : g.abortAll owner (i :: places) =
        (g.abort (owner.child i)).abortAll owner places := rfl
    rw [hfold, ih]
    cases halive : (g.tasks (owner.child i)).isAlive with
    | false =>
      have habort : g.abort (owner.child i) = g := by
        rw [abort, Task.eq_ended halive]
      have hvictims : g.victims owner (i :: places) = g.victims owner places := by
        simp [victims, halive]
      rw [habort, hvictims]
    | true =>
      have hvictims : g.victims owner (i :: places) =
          owner.child i :: g.victims owner places := by
        simp [victims, halive]
      rw [abort_of_isAlive g halive, hvictims]
      simp [victims]

/-! ## The end of a task -/

theorem set_self (id : TaskId) (t : Task) : (g.set id t).tasks id = t := if_pos rfl

theorem set_of_ne {id x : TaskId} (h : x ≠ id) (t : Task) : (g.set id t).tasks x = g.tasks x :=
  if_neg h

/-- How a task starts its group: it waits for it, and the tasks of the group are to be run. -/
structure Started (id : TaskId) (ms : List Member) (ending : Ending) (g g' : Gathering) : Prop where
  frame : g' = { g with tasks := g'.tasks, queue := g'.queue }
  tasks_self : g'.tasks id = .waiting (.ofSize ms.length) ending
  tasks_child : ∀ {i m}, ms[i]? = some m → g'.tasks (id.child i) = .fresh m
  tasks_other : ∀ {x}, x ≠ id → (∀ i < ms.length, x ≠ id.child i) → g'.tasks x = g.tasks x
  queue : ∀ x, x ∈ g'.queue ↔ x ∈ g.queue ∨ ∃ i < ms.length, id.child i = x
  nodup : g.queue.Nodup → g'.queue.Nodup

theorem started (id : TaskId) (ms : List Member) (ending : Ending) :
    Started id ms ending g ((g.set id (.waiting (.ofSize ms.length) ending)).startAll id 0 ms) := by
  rw [startAll_eq]
  refine ⟨rfl, ?_, fun {i m} hi => ?_, fun {x} hx hchild => ?_, fun x => ?_, fun h => ?_⟩
  · exact (spawn_of_ne fun i _ => TaskId.ne_child id _).trans (g.set_self id _)
  · have hspawn : spawn (g.set id (.waiting (.ofSize ms.length) ending)).tasks id 0 ms
        (id.child (0 + i)) = .fresh m := spawn_child hi
    rwa [Nat.zero_add] at hspawn
  · exact (spawn_of_ne (by simpa using hchild)).trans (g.set_of_ne hx _)
  · simp [mem_foldl_enqueue, List.mem_range', set]
  · exact nodup_foldl_enqueue h _

namespace Started

variable {g g' : Gathering} {id x : TaskId} {ms : List Member} {ending : Ending}

theorem doomed (h : Started id ms ending g g') : g'.doomed = g.doomed :=
  (congrArg Gathering.doomed h.frame).trans rfl

theorem log (h : Started id ms ending g g') (x : TaskId) : g'.log x = g.log x :=
  (congrArg (Gathering.log · x) h.frame).trans rfl

/-- The tasks of a task that goes on, and is not the one whose group starts, have not changed. -/
theorem isAlive_child (h : Started id ms ending g g') (halive : (g.tasks id).isAlive = true)
    (hx : x ≠ id) (i : Nat) :
    (g'.tasks (x.child i)).isAlive = (g.tasks (x.child i)).isAlive := by
  by_cases hid : x.child i = id
  · rw [hid, h.tasks_self, halive]
    rfl
  · rw [h.tasks_other hid fun j _ heq => hx (TaskId.child_injective heq).1]

end Started

/-- A task ends whose owner does not wait for it. -/
theorem finish_of_not_waiting {owner : TaskId} {place : Nat}
    (h : (g.tasks owner).isWaiting = false) (r : Result) :
    g.finish (owner.child place) r = g.set (owner.child place) .ended := by
  unfold finish
  rw [TaskId.parent?_child]
  dsimp only
  rw [set_of_ne _ (TaskId.ne_child owner place)]
  split
  · rename_i hwaiting
    rw [hwaiting] at h
    cases h
  · rfl

/-- A task ends whose owner waits for it, and is called for the result unless it has been. -/
theorem finish_of_waiting {owner : TaskId} {place : Nat} {crew : Crew} {ending : Ending}
    (h : g.tasks owner = .waiting crew ending) (r : Result) :
    g.finish (owner.child place) r =
      let told := (g.set (owner.child place) .ended).set owner
        (.waiting (crew.announce place r) ending)
      if crew.watched then told.wake owner else told := by
  unfold finish
  rw [TaskId.parent?_child]
  dsimp only
  rw [set_of_ne _ (TaskId.ne_child owner place), h]

/-- What the owner of a group is doing when one of its tasks has ended. -/
def told (owner : Task) (place : Nat) (r : Result) : Task :=
  match owner with
  | .waiting crew ending => .waiting (crew.announce place r) ending
  | t => t

/-- Whether a task waits for the next result of its group. -/
def watches : Task → Bool
  | .waiting crew _ => crew.watched
  | _ => false

/-- How a task of a group ends: its owner is told, and is called if it waits for that. -/
structure Finished (owner : TaskId) (place : Nat) (r : Result) (g g' : Gathering) : Prop where
  frame : g' = { g with tasks := g'.tasks, queue := g'.queue, called := g'.called }
  tasks_self : g'.tasks (owner.child place) = .ended
  tasks_owner : g'.tasks owner = told (g.tasks owner) place r
  tasks_other : ∀ x, x ≠ owner.child place → x ≠ owner → g'.tasks x = g.tasks x
  queue : ∀ x, x ∈ g'.queue ↔ x ∈ g.queue ∨
    x = owner ∧ owner ≠ .root ∧ watches (g.tasks owner) = true
  nodup : g.queue.Nodup → g'.queue.Nodup
  called : g'.called = true ↔ g.called = true ∨ owner = .root ∧ watches (g.tasks owner) = true

theorem finished (owner : TaskId) (place : Nat) (r : Result) :
    Finished owner place r g (g.finish (owner.child place) r) := by
  cases htask : g.tasks owner with
  | waiting crew ending =>
    rw [finish_of_waiting g htask]
    have hother : ∀ x, x ≠ owner.child place → x ≠ owner →
        ((g.set (owner.child place) .ended).set owner
          (.waiting (crew.announce place r) ending)).tasks x = g.tasks x := fun x hx hx' => by
      rw [set_of_ne _ hx', set_of_ne _ hx]
    have hself : ((g.set (owner.child place) .ended).set owner
        (.waiting (crew.announce place r) ending)).tasks (owner.child place) = .ended := by
      rw [set_of_ne _ (TaskId.child_ne owner place), set_self]
    have howner : ((g.set (owner.child place) .ended).set owner
        (.waiting (crew.announce place r) ending)).tasks owner = told (g.tasks owner) place r := by
      rw [set_self, htask]
      rfl
    dsimp only
    split
    · rename_i hwatched
      by_cases hroot : owner = .root
      · subst hroot
        exact ⟨rfl, hself, howner, hother, fun x => by simp [wake_root, set], fun h => h,
          by simp [wake_root, htask, watches, hwatched]⟩
      · rw [wake_of_ne_root _ hroot]
        refine ⟨rfl, hself, howner, hother, fun x => ?_, fun h => nodup_enqueue h owner, ?_⟩
        · simp [set, mem_enqueue, hroot, htask, watches, hwatched]
        · simp [set, hroot]
    · rename_i hwatched
      exact ⟨rfl, hself, howner, hother, fun x => by simp [set, htask, watches, hwatched], fun h => h,
        by simp [set, htask, watches, hwatched]⟩
  | fresh | asleep | yielded | ended =>
    rw [finish_of_not_waiting g (by rw [htask]; rfl)]
    refine ⟨rfl, set_self _ _ _, ?_, fun x hx _ => set_of_ne _ hx _, ?_, fun h => h, ?_⟩
    · rw [set_of_ne _ (TaskId.ne_child owner place), htask]
      rfl
    · simp [set, htask, watches]
    · simp [set, htask, watches]

namespace Finished

variable {g g' : Gathering} {owner x : TaskId} {place : Nat} {r : Result}

theorem doomed (h : Finished owner place r g g') : g'.doomed = g.doomed :=
  (congrArg Gathering.doomed h.frame).trans rfl

theorem log (h : Finished owner place r g g') (x : TaskId) : g'.log x = g.log x :=
  (congrArg (Gathering.log · x) h.frame).trans rfl

/-- Whether a task has ended, and whether it waits, is the same as before for all others. -/
theorem kept (h : Finished owner place r g g') (hx : x ≠ owner.child place) :
    (g'.tasks x).isAlive = (g.tasks x).isAlive ∧ (g'.tasks x).isWaiting = (g.tasks x).isWaiting := by
  by_cases hxo : x = owner
  · rw [hxo, h.tasks_owner]
    cases g.tasks owner <;> exact ⟨rfl, rfl⟩
  · rw [h.tasks_other x hx hxo]
    exact ⟨rfl, rfl⟩

theorem isAlive_self (h : Finished owner place r g g') :
    (g'.tasks (owner.child place)).isAlive = false := by
  rw [h.tasks_self]
  rfl

/-- A task that has not ended had not ended before, and is another one. -/
theorem of_isAlive (h : Finished owner place r g g') (hx : (g'.tasks x).isAlive = true) :
    x ≠ owner.child place ∧ (g.tasks x).isAlive = true := by
  have hne : x ≠ owner.child place := fun heq => by
    rw [heq, h.isAlive_self] at hx
    cases hx
  exact ⟨hne, (h.kept hne).1 ▸ hx⟩

end Finished

/-- A group that fails stops its owner. -/
theorem leave_of_not_isOk {id : TaskId} {e : Ending} (hroot : id ≠ .root) (h : e.isOk = false)
    (ending : Ending) :
    g.leave id ending e = (g.mark id (.ofStop e)).finish id (some e) := by
  unfold leave
  rw [if_neg hroot]
  cases e with
  | ok => cases h
  | error | panic => rfl

end Gathering

/-! ## Looking at results -/

/-- The tasks of a group after its owner has looked at the results; the next one calls it. -/
def Crew.look (c : Crew) (n : Nat) : Crew := { (c.take n).1 with watched := true }

namespace Gathering

variable (g : Gathering)

/-- What becomes of the tasks of a group when its owner looks at the results. -/
def reaction (owner : TaskId) (look : Crew × Option Nat) : Gathering :=
  match look.2 with
  | some n => (g.record [.cancelling g.now n]).abortAll owner look.1.running
  | none => g

theorem review_of_waiting {owner : TaskId} {crew : Crew} {ending : Ending}
    (h : g.tasks owner = .waiting crew ending) : g.review owner =
      let g' := g.reaction owner (crew.take g.left)
      match (crew.look g.left).ending? with
      | some e => g'.leave owner ending e
      | none =>
        if (crew.look g.left).results.isEmpty then
          g'.set owner (.waiting (crew.look g.left) ending)
        else g'.defer owner (crew.look g.left) ending := by
  unfold review
  rw [h]
  rfl

/-- Only the queue and the tasks to be cancelled change, and the records about no task. -/
theorem reaction_same (owner : TaskId) (look : Crew × Option Nat) :
    (g.reaction owner look).now = g.now ∧ (g.reaction owner look).tasks = g.tasks ∧
    (g.reaction owner look).alarms = g.alarms ∧ (g.reaction owner look).called = g.called ∧
    (g.reaction owner look).deferred = g.deferred ∧
    (g.reaction owner look).returned = g.returned ∧
    ∀ x, (g.reaction owner look).log x = g.log x := by
  unfold reaction
  split
  · rw [abortAll_eq]
    exact ⟨by simp, by simp, by simp, by simp, by simp, by simp, g.log_cancelling _ _⟩
  · exact ⟨rfl, rfl, rfl, rfl, rfl, rfl, fun _ => rfl⟩

/-- Until the group returns, nothing is recorded for the time after that. -/
theorem reaction_later (owner : TaskId) (look : Crew × Option Nat) (h : g.returned = none) :
    (g.reaction owner look).later = g.later := by
  unfold reaction
  split
  · rw [abortAll_eq]
    exact g.record_later _ h
  · rfl

end Gathering

end DbLifecycle
