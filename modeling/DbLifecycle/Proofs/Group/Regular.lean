import DbLifecycle.Proofs.Group.Frame

/-!
# Regular gatherings

What holds of every task of a gathering at every time, and of tasks and their owners.

* `View`, `Gathering.view`: what a gathering tells about a task.
* `Crew.Fits`: what holds of the tasks of a group as their owner sees them.
* `Fits`: what holds of a task, given when it begins and what it carries out.
* `Linked`, `Regular`: the invariant. One task may be active, that is, have its turn; nothing is
  said about how far it has come.
* `Regular.record`, `Regular.abortAll`, `Regular.startAll`, `Regular.settle`, `Regular.finish`:
  that the parts of a step preserve it.
-/

namespace DbLifecycle

/-! ## What is told about a task -/

/-- What a gathering tells about a task. -/
@[ext]
structure View where
  now : Nat
  task : Task
  /-- It will have its turn at this time. -/
  queued : Prop
  doomed : Prop
  alarm : Nat → Prop
  /-- How often it is called back after this round. -/
  deferred : Nat
  log : List (Nat × Mark)

/-- What a gathering tells about a task, with some tasks to be called back besides those that gave
way. -/
def Gathering.view (g : Gathering) (extra : List TaskId) (x : TaskId) : View where
  now := g.now
  task := g.tasks x
  queued := x ∈ g.queue ∨ x = .root ∧ g.called = true
  doomed := x ∈ g.doomed
  alarm t := (t, x) ∈ g.alarms
  deferred := (extra ++ g.deferred).count x
  log := g.log x

theorem Gathering.view_wake_of_ne (g : Gathering) (extra : List TaskId) {id x : TaskId}
    (h : x ≠ id) : (g.wake id).view extra x = g.view extra x := by
  have hqueued : ((g.wake id).view extra x).queued ↔ (g.view extra x).queued := by
    rw [wake_eq]
    simp only [view]
    by_cases hroot : id = .root
    · subst hroot
      simp [h]
    · simp [hroot, mem_enqueue, h]
  refine View.ext ?_ ?_ (propext hqueued) ?_ ?_ ?_ ?_ <;> rw [wake_eq] <;> rfl

theorem Gathering.queued_wake (g : Gathering) (extra : List TaskId) (id : TaskId) :
    ((g.wake id).view extra id).queued := by
  rw [wake_eq]
  by_cases hroot : id = .root
  · exact .inr ⟨hroot, by simp [hroot]⟩
  · exact .inl (by simp [hroot, mem_enqueue])

/-! ## Groups -/

/-- The owner of a group has a failure before it, or has seen it. -/
def Crew.Failed (c : Crew) (e : Ending) : Prop :=
  c.failure = some e ∨ e.isOk = false ∧ (some e ∈ c.results ∨ some e ∈ c.aside)

/-- What holds of the tasks of a group that began at some time. -/
structure Crew.Fits (begun : Nat) (ms : List Member) (now : Nat) (c : Crew) : Prop where
  nodup : c.running.Nodup
  size_le : c.size ≤ ms.length
  begun_le : begun ≤ now
  /-- If a task has ended, then with success and in its time, or there was a failure. -/
  gone : ∀ i m, ms[i]? = some m → i ∉ c.running →
    (∃ e, c.Failed e) ∨ m.fails = false ∧ begun + m.duration ≤ now
  /-- A failure is that of one of the quickest failing members, and comes in its time. -/
  failed : ∀ e, c.Failed e → begun + Member.groupDuration ms ≤ now ∧
    ∃ m ∈ ms, m.fails = true ∧ m.duration = Member.groupDuration ms ∧ m.EndsWith e

section Crew

variable {begun now : Nat} {ms : List Member} {c : Crew}

/-- What holds of the tasks of a group still does when time passes. -/
theorem Crew.Fits.mono (h : c.Fits begun ms now) {later : Nat} (hle : now ≤ later) :
    c.Fits begun ms later where
  nodup := h.nodup
  size_le := h.size_le
  begun_le := Nat.le_trans h.begun_le hle
  gone i m hi hnot := (h.gone i m hi hnot).imp_right fun ⟨hfails, htime⟩ =>
    ⟨hfails, Nat.le_trans htime hle⟩
  failed e he := ⟨Nat.le_trans (h.failed e he).1 hle, (h.failed e he).2⟩

/-- When all its tasks have ended, a group has taken the time that is to be expected. -/
theorem Crew.Fits.groupDuration_le (h : c.Fits begun ms now) (hrunning : c.running = []) :
    begun + Member.groupDuration ms ≤ now := by
  by_cases hfailed : ∃ e, c.Failed e
  · obtain ⟨e, he⟩ := hfailed
    exact (h.failed e he).1
  · have hall : ∀ m ∈ ms, m.fails = false ∧ begun + m.duration ≤ now := fun m hm => by
      obtain ⟨i, hi⟩ := List.mem_iff_getElem?.mp hm
      exact (h.gone i m hi (by simp [hrunning])).resolve_left hfailed
    rw [Member.groupDuration_of_not_anyFails
      (Member.anyFails_eq_false_iff.mpr fun m hm => (hall m hm).1)]
    have hslowest : Member.slowest ms ≤ now - begun :=
      Member.slowest_le fun m hm => by have := (hall m hm).2; omega
    have := h.begun_le
    omega

/-- A group fails if one of its members does. -/
theorem Crew.Fits.anyFails_of_failed (h : c.Fits begun ms now) {e : Ending} (he : c.Failed e) :
    Member.anyFails ms = true ∧ e.isOk = false := by
  obtain ⟨-, m, hm, hfails, -, hends⟩ := h.failed e he
  refine ⟨Member.anyFails_iff.mpr ⟨m, hm, hfails⟩, ?_⟩
  rw [hends.isOk, hfails]
  rfl

/-- If one of its members fails, then a group fails before all its tasks have ended. -/
theorem Crew.Fits.not_anyFails (h : c.Fits begun ms now) (hrunning : c.running = [])
    (hfailed : ∀ e, ¬ c.Failed e) : Member.anyFails ms = false := by
  refine Member.anyFails_eq_false_iff.mpr fun m hm => ?_
  obtain ⟨i, hi⟩ := List.mem_iff_getElem?.mp hm
  exact ((h.gone i m hi (by simp [hrunning])).resolve_left fun ⟨e, he⟩ => hfailed e he).1

end Crew

/-! ## Tasks -/

/-- What a task that has ended has recorded: nothing if it was cancelled before it began, its whole
story, or a part of it and that it was cancelled. -/
inductive Member.Ended (m : Member) (t : Nat) : List (Nat × Mark) → Prop
  | idle : m.Ended t []
  | told {e : Ending} (h : m.EndsWith e) : m.Ended t (m.story t e)
  | cut {done : List Nat} (h : done <+: m.delays) (now : Nat) :
      m.Ended t (opening t done ++ [(now, .cancelled)])

/-- What holds of a task that begins at some time, and of what it carries out. -/
inductive Fits (x : TaskId) (t : Nat) (m : Member) (v : View) : Prop
  | fresh (htask : v.task = .fresh m) (hlog : v.log = []) (hnow : v.now = t) (hqueued : v.queued)
      (halarm : ∀ u, ¬ v.alarm u)
  | asleep {done rest : List Nat} {d : Nat} (hdelays : m.delays = done ++ d :: rest)
      (htask : v.task = .asleep (m.withDelays rest)) (hlog : v.log = Member.opening t done)
      (hnow : v.now ≤ t + (done.sum + d)) (halarm : ∀ u, v.alarm u → u = t + (done.sum + d))
      (hwakes : v.alarm (t + (done.sum + d)) ∨ v.queued)
      (hqueued : v.queued → v.doomed ∨ v.now = t + (done.sum + d) ∧ ∀ u, ¬ v.alarm u)
  | yielded {done rest : List Nat} (hdelays : m.delays = done ++ rest)
      (htask : v.task = .yielded (m.withDelays rest)) (hlog : v.log = Member.opening t done)
      (hnow : v.now = t + done.sum) (hqueued : v.queued ∨ 0 < v.deferred)
      (halarm : ∀ u, ¬ v.alarm u)
  | waiting {ds : List Nat} {ms : List Member} {ending : Ending} {crew : Crew}
      (hm : m = .grouped ds ms ending) (htask : v.task = .waiting crew ending)
      (hlog : x ≠ .root → v.log = Member.opening t ds) (hnow : v.now ≤ t + m.duration)
      (hcrew : crew.Fits (t + ds.sum) ms v.now) (hsize : crew.size ≠ 0)
      (hqueued : crew.results ≠ [] ∨ crew.watched = false → v.queued)
      (haside : crew.aside.length ≤ v.deferred) (halarm : ∀ u, ¬ v.alarm u)
  | ended (htask : v.task = .ended) (hlog : m.Ended t v.log) (halarm : ∀ u, ¬ v.alarm u)

namespace Fits

variable {x : TaskId} {t : Nat} {m : Member} {v w : View}

theorem sum_le_duration {done rest : List Nat} {d : Nat} (h : m.delays = done ++ d :: rest) :
    done.sum + d ≤ m.duration := by
  have := m.delays_sum_le_duration
  rw [h, List.sum_append, List.sum_cons] at this
  omega

/-- A task that is not asleep has no alarm. -/
theorem not_alarm (h : Fits x t m v) (htask : ∀ m', v.task ≠ .asleep m') (u : Nat) :
    ¬ v.alarm u := by
  cases h with
  | asleep _ hasleep => exact absurd hasleep (htask _)
  | fresh _ _ _ _ halarm | yielded _ _ _ _ _ halarm | waiting _ _ _ _ _ _ _ _ halarm
  | ended _ _ halarm => exact halarm u

/-- A task that is cancelled has its turn at this time. -/
theorem doom (h : Fits x t m v) (hnow : w.now = v.now) (htask : w.task = v.task)
    (halarm : w.alarm = v.alarm) (hdeferred : w.deferred = v.deferred) (hlog : w.log = v.log)
    (hqueued : w.queued) (hdoomed : w.doomed) : Fits x t m w := by
  cases h with
  | fresh h₁ h₂ h₃ _ h₅ =>
    exact .fresh (htask ▸ h₁) (hlog ▸ h₂) (hnow ▸ h₃) hqueued (halarm ▸ h₅)
  | asleep h₁ h₂ h₃ h₄ h₅ _ _ =>
    exact .asleep h₁ (htask ▸ h₂) (hlog ▸ h₃) (hnow ▸ h₄) (halarm ▸ h₅) (.inr hqueued)
      fun _ => .inl hdoomed
  | yielded h₁ h₂ h₃ h₄ _ h₆ =>
    exact .yielded h₁ (htask ▸ h₂) (hlog ▸ h₃) (hnow ▸ h₄) (.inl hqueued) (halarm ▸ h₆)
  | waiting h₁ h₂ h₃ h₄ h₅ h₆ _ h₈ h₉ =>
    exact .waiting h₁ (htask ▸ h₂) (hlog ▸ h₃) (hnow ▸ h₄) (hnow ▸ h₅) h₆ (fun _ => hqueued)
      (hdeferred ▸ h₈) (halarm ▸ h₉)
  | ended h₁ h₂ h₃ => exact .ended (htask ▸ h₁) (hlog ▸ h₂) (halarm ▸ h₃)

/-- What holds of a task that waits for its group. -/
theorem of_waiting (h : Fits x t m v) {crew : Crew} {ending : Ending}
    (htask : v.task = .waiting crew ending) :
    ∃ ds ms, m = .grouped ds ms ending ∧ (x ≠ .root → v.log = Member.opening t ds) ∧
      v.now ≤ t + m.duration ∧ crew.Fits (t + ds.sum) ms v.now ∧ crew.size ≠ 0 ∧
      (crew.results ≠ [] ∨ crew.watched = false → v.queued) ∧
      crew.aside.length ≤ v.deferred ∧ ∀ u, ¬ v.alarm u := by
  cases h with
  | waiting hm htask' hlog hnow hcrew hsize hqueued haside halarm =>
    rw [htask] at htask'
    obtain ⟨rfl, rfl⟩ := Task.waiting.inj htask'
    exact ⟨_, _, hm, hlog, hnow, hcrew, hsize, hqueued, haside, halarm⟩
  | fresh htask' | asleep _ htask' | yielded _ htask' | ended htask' =>
    rw [htask] at htask'
    cases htask'

end Fits

/-! ## Tasks and their owners -/

/-- A task has been cancelled by its group. -/
def Gathering.Cancelled (g : Gathering) (x : TaskId) : Prop :=
  x ∈ g.doomed ∧ ∃ t, (t, Mark.cancelled) ∈ g.log x

/-- How a task of a group that has not ended and its owner are related: its owner waits for it, and
has it cancelled when there is a failure; or its owner has been cancelled, and has it cancelled. -/
def Gathering.Linked (g : Gathering) (active : Option TaskId) (x : TaskId) (i : Nat) : Prop :=
  (∃ crew ending, g.tasks x = .waiting crew ending ∧ i ∈ crew.running ∧
    (active = some x ∨ (x.child i ∈ g.doomed ↔ crew.failure ≠ none))) ∨
  (g.tasks x).isAlive = false ∧ x.child i ∈ g.doomed ∧ g.Cancelled x

/-- What holds of a gathering, given what its tasks are to do, which of them is active, and which
are to be called back besides those that gave way. -/
structure Regular (plan : Plan) (active : Option TaskId) (extra : List TaskId) (g : Gathering) :
    Prop where
  coherent : ∀ x i, plan (x.child i) = (plan x).bind fun p => Member.childAt p i
  planned : ∀ x, (g.tasks x).isAlive = true → (plan x).isSome
  alarms : ∀ t x, (t, x) ∈ g.alarms → (plan x).isSome
  recorded : ∀ x, g.log x ≠ [] → (plan x).isSome
  fits : ∀ x t m, active ≠ some x → plan x = some (t, m) → Fits x t m (g.view extra x)
  linked : ∀ x i, (g.tasks (x.child i)).isAlive = true → x = .outer ∨ g.Linked active x i
  running : ∀ x i, i ∈ (g.tasks x).running → (g.tasks (x.child i)).isAlive = true
  doomed : ∀ x ∈ g.doomed, (g.tasks x).isAlive = true → active = some x ∨ x ∈ g.queue
  queued : ∀ x ∈ g.queue, (g.tasks x).isAlive = true
  nodup : g.queue.Nodup
  /-- The tasks of a group have nothing to do with the gathering before their owner waits. -/
  lineage : ∀ x i, g.log (x.child i) ≠ [] ∨ x.child i ∈ g.doomed → x = .outer ∨ x = .root ∨
    (g.tasks x).isWaiting = true ∨ (g.tasks x).isAlive = false ∧ g.log x ≠ []
  outer : (g.tasks .outer).isAlive = false
  /-- The tasks outside are never cancelled. -/
  outside : ∀ i t m, plan (TaskId.outer.child i) = some (t, m) →
    TaskId.outer.child i ∉ g.doomed ∧ ((g.tasks (TaskId.outer.child i)).isAlive = false →
      ∃ e, m.EndsWith e ∧ g.log (TaskId.outer.child i) = m.story t e)
  rootPlan : ∃ ms, plan .root = some (0, .grouped [] ms (.ok ()))
  root : .root ∉ g.queue ∧ .root ∉ g.doomed ∧ g.log .root = []
  quiet : g.returned = none → g.later = []
  returned : match g.returned with
    | none => (g.tasks .root).isWaiting = true
    | some (u, e) => (g.tasks .root).isAlive = false ∧
      ∃ t m, plan .root = some (t, m) ∧ u = t + m.duration ∧ m.EndsWith e

namespace Regular

variable {plan : Plan} {extra : List TaskId} {g : Gathering} {x id : TaskId} {active : Option TaskId}

/-- The active task is not what stands above the tasks outside. -/
theorem ne_outer (h : Regular plan active extra g) (halive : (g.tasks x).isAlive = true) :
    x ≠ .outer := fun hx => by rw [hx, h.outer] at halive; cases halive

/-- A task of a group that has not ended has an owner that waits, or has been cancelled. -/
theorem reached (h : Regular plan active extra g) {i : Nat}
    (halive : (g.tasks (x.child i)).isAlive = true) (houter : x ≠ .outer) :
    (g.tasks x).isWaiting = true ∨ (g.tasks x).isAlive = false ∧ g.log x ≠ [] := by
  rcases (h.linked x i halive).resolve_left houter with ⟨crew, ending, htask, -⟩ |
      ⟨hended, -, -, t, ht⟩
  · rw [htask]
    exact .inl rfl
  · exact .inr ⟨hended, List.ne_nil_of_mem ht⟩

/-- The tasks of a task that has not reached its group have nothing to do with the gathering. -/
theorem untouched (h : Regular plan active extra g) (houter : x ≠ .outer) (hroot : x ≠ .root)
    (hunreached : ¬ ((g.tasks x).isWaiting = true ∨ (g.tasks x).isAlive = false ∧ g.log x ≠ []))
    (i : Nat) :
    (g.tasks (x.child i)).isAlive = false ∧ g.log (x.child i) = [] ∧ x.child i ∉ g.doomed := by
  have hlineage : ¬ (g.log (x.child i) ≠ [] ∨ x.child i ∈ g.doomed) := fun htouched =>
    hunreached (((h.lineage x i htouched).resolve_left houter).resolve_left hroot)
  rw [not_or, not_not] at hlineage
  refine ⟨?_, hlineage⟩
  rw [← Bool.not_eq_true]
  exact fun halive => hunreached (h.reached halive houter)

/-- The owner of the outermost group does nothing but wait. -/
theorem ne_root (h : Regular plan active extra g) (halive : (g.tasks x).isAlive = true)
    (hwaiting : (g.tasks x).isWaiting = false) : x ≠ .root := fun hx => by
  have hreturned := h.returned
  rw [← hx] at hreturned
  split at hreturned
  · rw [hreturned] at hwaiting
    cases hwaiting
  · rw [hreturned.1] at halive
    cases halive

/-- The owner of the outermost group ends when that returns. -/
theorem root_isAlive (h : Regular plan active extra g) :
    (g.tasks .root).isAlive = true ↔ g.returned = none := by
  have hreturned := h.returned
  cases hcase : g.returned with
  | none =>
    rw [hcase] at hreturned
    refine iff_of_true ?_ rfl
    cases htask : g.tasks .root with
    | ended => rw [htask] at hreturned; cases hreturned
    | fresh | asleep | yielded | waiting => rfl
  | some p =>
    rw [hcase] at hreturned
    rw [hreturned.1]
    exact iff_of_false nofun nofun

/-- Between turns, every task is where its story has got to. -/
theorem fit (h : Regular plan none extra g) {t : Nat} {m : Member} (hplan : plan x = some (t, m)) :
    Fits x t m (g.view extra x) :=
  h.fits x t m (Option.some_ne_none x).symm hplan

/-- Between turns, every task that has been cancelled and has not ended is to be run. -/
theorem mem_queue_of_doomed (h : Regular plan none extra g) (hdoomed : x ∈ g.doomed)
    (halive : (g.tasks x).isAlive = true) : x ∈ g.queue :=
  (h.doomed x hdoomed halive).resolve_left (Option.some_ne_none x).symm

/-! ## The active task -/

/-- A task gets its turn. -/
theorem activate (h : Regular plan none extra g) (id : TaskId) :
    Regular plan (some id) extra g :=
  { h with
    fits := fun _ _ _ _ hplan => h.fit hplan
    linked := fun x i halive => (h.linked x i halive).imp_right fun hlinked =>
      hlinked.imp_left fun ⟨crew, ending, htask, hi, hdoomed⟩ =>
        ⟨crew, ending, htask, hi, .inr (hdoomed.resolve_left (Option.some_ne_none x).symm)⟩
    doomed := fun _ hx halive => .inr (h.mem_queue_of_doomed hx halive) }

/-- The turn of a task is over. -/
theorem settle (h : Regular plan (some id) extra g)
    (hfits : ∀ t m, plan id = some (t, m) → Fits id t m (g.view extra id))
    (hdoomed : id ∈ g.doomed → (g.tasks id).isAlive = true → id ∈ g.queue)
    (hlinked : ∀ crew ending, g.tasks id = .waiting crew ending → ∀ i ∈ crew.running,
      (id.child i ∈ g.doomed ↔ crew.failure ≠ none)) :
    Regular plan none extra g :=
  { h with
    fits := fun x t m _ hplan => by
      by_cases hx : x = id
      · exact hx ▸ hfits t m (hx ▸ hplan)
      · exact h.fits x t m (fun heq => hx (Option.some.inj heq).symm) hplan
    linked := fun x i halive => (h.linked x i halive).imp_right fun hlink =>
      hlink.imp_left fun ⟨crew, ending, htask, hi, hfailure⟩ => by
        refine ⟨crew, ending, htask, hi, .inr ?_⟩
        rcases hfailure with hactive | hfailure
        · obtain rfl := Option.some.inj hactive
          exact hlinked crew ending htask i hi
        · exact hfailure
    doomed := fun x hx halive => by
      rcases h.doomed x hx halive with hactive | hmem
      · obtain rfl := Option.some.inj hactive
        exact .inr (hdoomed hx halive)
      · exact .inr hmem }

end Regular

/-- A change to one task alone, which goes on. -/
structure Gathering.Going (id : TaskId) (extra extra' : List TaskId) (g g' : Gathering) : Prop where
  views : ∀ x, x ≠ id → g'.view extra' x = g.view extra x
  queue : ∀ x, x ≠ id → (x ∈ g'.queue ↔ x ∈ g.queue)
  nodup : g'.queue.Nodup
  rootQueue : .root ∉ g'.queue
  doomed_self : id ∈ g'.doomed ↔ id ∈ g.doomed
  before : (g.tasks id).isAlive = true
  after : (g'.tasks id).isAlive = true
  running_self : (g'.tasks id).running = (g.tasks id).running
  waiting_self : (g.tasks id).isWaiting = true → (g'.tasks id).isWaiting = true
  log_self : g.log id ⊆ g'.log id
  rootLog : id = .root → g'.log id = []
  returned : g'.returned = g.returned
  quiet : g'.returned = none → g'.later = []

namespace Gathering.Going

variable {id x : TaskId} {extra extra' : List TaskId} {g g' : Gathering}

theorem tasks_of_ne (h : Going id extra extra' g g') (hx : x ≠ id) : g'.tasks x = g.tasks x :=
  congrArg View.task (h.views x hx)

theorem log_of_ne (h : Going id extra extra' g g') (hx : x ≠ id) : g'.log x = g.log x :=
  congrArg View.log (h.views x hx)

theorem doomed (h : Going id extra extra' g g') (x : TaskId) : x ∈ g'.doomed ↔ x ∈ g.doomed := by
  by_cases hx : x = id
  · rw [hx, h.doomed_self]
  · exact iff_of_eq (congrArg View.doomed (h.views x hx))

theorem isAlive (h : Going id extra extra' g g') (x : TaskId) :
    (g'.tasks x).isAlive = (g.tasks x).isAlive := by
  by_cases hx : x = id
  · rw [hx, h.before, h.after]
  · rw [h.tasks_of_ne hx]

theorem running (h : Going id extra extra' g g') (x : TaskId) :
    (g'.tasks x).running = (g.tasks x).running := by
  by_cases hx : x = id
  · rw [hx, h.running_self]
  · rw [h.tasks_of_ne hx]

theorem isWaiting (h : Going id extra extra' g g') (hx : (g.tasks x).isWaiting = true) :
    (g'.tasks x).isWaiting = true := by
  by_cases heq : x = id
  · subst heq
    exact h.waiting_self hx
  · rwa [h.tasks_of_ne heq]

theorem log_subset (h : Going id extra extra' g g') (x : TaskId) : g.log x ⊆ g'.log x := by
  by_cases hx : x = id
  · rw [hx]
    exact h.log_self
  · rw [h.log_of_ne hx]
    exact List.Subset.refl _

/-- A task that waits, or has done something before it ended, still does or has. -/
theorem reached (h : Going id extra extra' g g')
    (hx : (g.tasks x).isWaiting = true ∨ (g.tasks x).isAlive = false ∧ g.log x ≠ []) :
    (g'.tasks x).isWaiting = true ∨ (g'.tasks x).isAlive = false ∧ g'.log x ≠ [] := by
  refine hx.imp h.isWaiting fun ⟨hended, hne⟩ => ?_
  obtain ⟨p, hp⟩ := List.exists_mem_of_ne_nil _ hne
  rw [h.isAlive]
  exact ⟨hended, List.ne_nil_of_mem (h.log_subset x hp)⟩

/-- Tasks and their owners are related as before. -/
theorem linked (h : Going id extra extra' g g') {i : Nat} (hlinked : g.Linked (some id) x i) :
    g'.Linked (some id) x i := by
  rcases hlinked with ⟨crew, ending, htask, hi, hfailure⟩ | ⟨hended, hdoom, hid, t, ht⟩
  · left
    by_cases hx : x = id
    · subst hx
      have hi' : i ∈ (g'.tasks x).running := by rwa [h.running, htask]
      cases htask' : g'.tasks x with
      | waiting crew' ending' =>
        rw [htask'] at hi'
        exact ⟨crew', ending', rfl, hi', .inl rfl⟩
      | fresh | asleep | yielded | ended => rw [htask'] at hi'; cases hi'
    · rw [h.tasks_of_ne hx, h.doomed]
      exact ⟨crew, ending, htask, hi, hfailure⟩
  · right
    rw [h.isAlive, Cancelled, h.doomed, h.doomed]
    exact ⟨hended, hdoom, hid, t, h.log_subset x ht⟩

end Gathering.Going

namespace Regular

variable {plan : Plan} {extra : List TaskId} {g : Gathering} {x id : TaskId} {active : Option TaskId}

/-- The active task changes, and goes on. -/
theorem change (h : Regular plan (some id) extra g) {extra' : List TaskId} {g' : Gathering}
    (hgoing : Gathering.Going id extra extra' g g') : Regular plan (some id) extra' g' := by
  constructor
  case coherent => exact h.coherent
  case planned => simpa only [hgoing.isAlive] using h.planned
  case alarms =>
    intro t x hx
    by_cases hid : x = id
    · subst hid
      exact h.planned x hgoing.before
    · have halarm := congrFun (congrArg View.alarm (hgoing.views x hid)) t
      exact h.alarms t x ((iff_of_eq halarm).mp hx)
  case recorded =>
    intro x hx
    by_cases hid : x = id
    · subst hid
      exact h.planned x hgoing.before
    · exact h.recorded x (hgoing.log_of_ne hid ▸ hx)
  case fits =>
    intro x t m hx hplan
    rw [hgoing.views x fun heq => hx (congrArg some heq.symm)]
    exact h.fits x t m hx hplan
  case linked =>
    intro x i hchild
    rw [hgoing.isAlive] at hchild
    exact (h.linked x i hchild).imp_right hgoing.linked
  case running => simpa only [hgoing.isAlive, hgoing.running] using h.running
  case doomed =>
    intro x hx hx'
    rw [hgoing.doomed] at hx
    rw [hgoing.isAlive] at hx'
    by_cases hid : x = id
    · exact .inl (congrArg some hid.symm)
    · exact .inr ((hgoing.queue x hid).mpr ((h.doomed x hx hx').resolve_left fun heq =>
        hid (Option.some.inj heq).symm))
  case queued =>
    intro x hx
    by_cases hid : x = id
    · rw [hid]
      exact hgoing.after
    · rw [hgoing.isAlive]
      exact h.queued x ((hgoing.queue x hid).mp hx)
  case nodup => exact hgoing.nodup
  case lineage =>
    intro x i htouched
    by_cases houter : x = .outer
    · exact .inl houter
    by_cases hroot : x = .root
    · exact .inr (.inl hroot)
    refine .inr (.inr (hgoing.reached ?_))
    by_cases hid : x.child i = id
    · exact h.reached (by rw [hid]; exact hgoing.before) houter
    · rw [hgoing.log_of_ne hid, hgoing.doomed] at htouched
      exact ((h.lineage x i htouched).resolve_left houter).resolve_left hroot
  case outer => rw [hgoing.isAlive]; exact h.outer
  case outside =>
    intro i t m hplan
    obtain ⟨hnot, hended⟩ := h.outside i t m hplan
    rw [hgoing.doomed, hgoing.isAlive]
    refine ⟨hnot, fun hdead => ?_⟩
    rw [hgoing.log_of_ne fun hid => by rw [hid, hgoing.before] at hdead; cases hdead]
    exact hended hdead
  case rootPlan => exact h.rootPlan
  case root =>
    refine ⟨hgoing.rootQueue, by rw [hgoing.doomed]; exact h.root.2.1, ?_⟩
    by_cases hid : id = .root
    · exact hid ▸ hgoing.rootLog hid
    · rw [hgoing.log_of_ne fun heq => hid heq.symm]
      exact h.root.2.2
  case quiet => exact hgoing.quiet
  case returned =>
    have hreturned := h.returned
    rw [hgoing.returned]
    cases hcase : g.returned with
    | none => rw [hcase] at hreturned; exact hgoing.isWaiting hreturned
    | some p => rw [hcase] at hreturned; simpa only [hgoing.isAlive] using hreturned

/-- The active task is called. -/
theorem wake (h : Regular plan (some id) extra g) (halive : (g.tasks id).isAlive = true) :
    Regular plan (some id) extra (g.wake id) := by
  refine h.change ⟨fun x hx => g.view_wake_of_ne extra hx, fun x hx => ?_,
    g.nodup_queue_wake h.nodup id, fun hmem => ?_, by simp, halive, by simpa using halive,
    by simp, by simp, by simp, fun heq => ?_, by simp, by simpa using h.quiet⟩
  · simp [g.mem_queue_wake, hx]
  · rcases g.mem_queue_wake.mp hmem with hmem | ⟨heq, hne⟩
    · exact h.root.1 hmem
    · exact hne heq.symm
  · rw [g.wake_log, heq]
    exact h.root.2.2

theorem view_cons_of_ne (g : Gathering) (extra : List TaskId) (h : x ≠ id) :
    g.view (id :: extra) x = g.view extra x := by
  simp [Gathering.view, List.count_cons_of_ne h.symm]

/-- The active task need not be called back. -/
theorem dismiss (h : Regular plan (some id) (id :: extra) g) : Regular plan (some id) extra g :=
  { h with
    fits := fun x t m hx hplan => by
      have hfits := h.fits x t m hx hplan
      rwa [view_cons_of_ne g extra fun heq => hx (congrArg some heq.symm)] at hfits }

/-- The active task is to be called back. -/
theorem postpone (h : Regular plan (some id) extra g) :
    Regular plan (some id) extra { g with deferred := id :: g.deferred } :=
  { h with
    fits := fun x t m hx hplan => by
      have hview : ({ g with deferred := id :: g.deferred } : Gathering).view extra x =
          g.view extra x := by
        refine View.ext rfl rfl rfl rfl rfl ?_ rfl
        have hne : id ≠ x := fun heq => hx (congrArg some heq)
        simp [Gathering.view, List.count_cons_of_ne hne]
      rw [hview]
      exact h.fits x t m hx hplan }

/-! ## Cancelling and starting tasks -/

/-- The active task cancels tasks of its group. -/
theorem abortAll (h : Regular plan (some id) extra g) (halive : (g.tasks id).isAlive = true)
    (places : List Nat) : Regular plan (some id) extra (g.abortAll id places) := by
  rw [Gathering.abortAll_eq]
  have hqueue : ∀ x, x ∈ (g.victims id places).foldl Gathering.enqueue g.queue ↔
      x ∈ g.queue ∨ x ∈ g.victims id places := fun x => Gathering.mem_foldl_enqueue
  have hdoomed : ∀ x, x ∈ (g.victims id places).reverse ++ g.doomed ↔
      x ∈ g.victims id places ∨ x ∈ g.doomed := fun x => by
    rw [List.mem_append, List.mem_reverse]
  have hchild : ∀ {x}, x ∈ g.victims id places → ∃ i, x = id.child i ∧
      (g.tasks x).isAlive = true := fun hx => by
    obtain ⟨⟨i, -, rfl⟩, hx⟩ := g.mem_victims.mp hx
    exact ⟨i, rfl, hx⟩
  have hother : ∀ {x i}, x ≠ id → x.child i ∉ g.victims id places := fun hne hmem => by
    obtain ⟨j, hj, -⟩ := hchild hmem
    exact hne (TaskId.child_injective hj).1
  have hroot : .root ∉ g.victims id places := fun hmem => by
    obtain ⟨i, hi, -⟩ := hchild hmem
    exact TaskId.child_ne_root id i hi.symm
  exact
  { h with
    fits := fun x t m hx hplan => by
      have hfits := h.fits x t m hx hplan
      by_cases hmem : x ∈ g.victims id places
      · refine hfits.doom rfl rfl rfl rfl rfl (.inl ?_) ?_
        · exact (hqueue x).mpr (.inr hmem)
        · exact (hdoomed x).mpr (.inl hmem)
      · have hview : ({ g with
            queue := (g.victims id places).foldl Gathering.enqueue g.queue
            doomed := (g.victims id places).reverse ++ g.doomed } : Gathering).view extra x =
            g.view extra x := by
          simp only [Gathering.view, hqueue, hdoomed, hmem, or_false, false_or]
          rfl
        rw [hview]
        exact hfits
    linked := fun x i hx => (h.linked x i hx).imp_right fun hlinked => by
      rcases hlinked with ⟨crew, ending, htask, hi, hfailure⟩ |
          ⟨hended, hdoom, hid, hcancelled⟩
      · refine .inl ⟨crew, ending, htask, hi, ?_⟩
        by_cases hxid : x = id
        · exact .inl (congrArg some hxid.symm)
        · rw [hdoomed]
          simpa only [hother hxid, false_or] using hfailure
      · exact .inr ⟨hended, (hdoomed _).mpr (.inr hdoom), (hdoomed _).mpr (.inr hid), hcancelled⟩
    doomed := fun x hx hxalive => by
      rcases (hdoomed x).mp hx with hmem | hmem
      · exact .inr ((hqueue x).mpr (.inr hmem))
      · exact (h.doomed x hmem hxalive).imp_right fun hq => (hqueue x).mpr (.inl hq)
    queued := fun x hx => by
      rcases (hqueue x).mp hx with hmem | hmem
      · exact h.queued x hmem
      · exact (g.mem_victims.mp hmem).2
    nodup := Gathering.nodup_foldl_enqueue h.nodup _
    lineage := fun x i htouched => by
      by_cases hmem : x.child i ∈ g.victims id places
      · obtain ⟨j, hj, hxalive⟩ := hchild hmem
        by_cases houter : x = .outer
        · exact .inl houter
        · exact .inr (.inr (h.reached hxalive houter))
      · refine h.lineage x i (htouched.imp_right fun hx => ?_)
        exact ((hdoomed _).mp hx).resolve_left hmem
    outside := fun i t m hplan => by
      obtain ⟨hnot, hended⟩ := h.outside i t m hplan
      refine ⟨fun hx => ?_, hended⟩
      exact ((hdoomed _).mp hx).elim (hother (h.ne_outer halive).symm) hnot
    root := by
      refine ⟨fun hx => ?_, fun hx => ?_, h.root.2.2⟩
      · exact ((hqueue _).mp hx).elim h.root.1 hroot
      · exact ((hdoomed _).mp hx).elim hroot h.root.2.1 }

section Start

variable {t : Nat} {ds : List Nat} {ms : List Member} {ending : Ending} {g' : Gathering}

/-- The task of a member begins when the delays of its owner are over. -/
theorem planned_child (h : Regular plan active extra g) {m m' : Member} {i : Nat}
    (hplan : plan x = some (t, m)) (hi : m.children[i]? = some m') :
    plan (x.child i) = some (t + m.delays.sum, m') := by
  rw [h.coherent, hplan]
  simp [Member.childAt, hi]

/-- The tasks of a group that has not been started have nothing to do with the gathering, nor have
theirs. -/
theorem unstarted (h : Regular plan active extra g) (halive : (g.tasks id).isAlive = true)
    (hwaiting : (g.tasks id).isWaiting = false) (i : Nat) :
    ((g.tasks (id.child i)).isAlive = false ∧ g.log (id.child i) = [] ∧ id.child i ∉ g.doomed) ∧
    ∀ j, (g.tasks ((id.child i).child j)).isAlive = false ∧
      g.log ((id.child i).child j) = [] ∧ (id.child i).child j ∉ g.doomed := by
  have hchild := h.untouched (h.ne_outer halive) (h.ne_root halive hwaiting)
    (by simp [hwaiting, halive]) i
  refine ⟨hchild, h.untouched (by simp) (by simp) ?_⟩
  simp [hchild.2.1, Task.eq_ended hchild.1, Task.isWaiting]

variable (h : Regular plan (some id) extra g)
  (hplan : plan id = some (t, .grouped ds ms ending)) (halive : (g.tasks id).isAlive = true)
  (hwaiting : (g.tasks id).isWaiting = false)
  (hstarted : Gathering.Started id ms ending g g')

include h halive hwaiting hstarted

include hplan in
/-- The tasks of a group begin when it is started, and all others are where they were. -/
theorem start_fits (hnow : g.now = t + ds.sum) {t' : Nat} {m' : Member} (hx : id ≠ x)
    (hplan' : plan x = some (t', m')) : Fits x t' m' (g'.view extra x) := by
  obtain ⟨ts, q, rfl⟩ : ∃ ts q, g' = { g with tasks := ts, queue := q } := ⟨_, _, hstarted.frame⟩
  have hactive : some id ≠ some x := fun heq => hx (Option.some.inj heq)
  have hfits := h.fits x t' m' hactive hplan'
  rcases TaskId.cases_of_group id x ms with heq | ⟨i, m, hi, rfl⟩ | ⟨hne, hchild⟩
  · exact absurd heq.symm hx
  · obtain ⟨hdead, hlog, -⟩ := (h.unstarted halive hwaiting i).1
    rw [h.planned_child hplan hi] at hplan'
    cases hplan'
    refine .fresh (hstarted.tasks_child hi) hlog hnow (.inl ?_) fun u => ?_
    · obtain ⟨hlt, -⟩ := List.getElem?_eq_some_iff.mp hi
      exact (hstarted.queue _).mpr (.inr ⟨i, hlt, rfl⟩)
    · refine hfits.not_alarm (fun m'' htask => ?_) u
      rw [show g.tasks (id.child i) = .asleep m'' from htask] at hdead
      cases hdead
  · have hview : ({ g with tasks := ts, queue := q } : Gathering).view extra x =
        g.view extra x := by
      have hnot : ¬ ∃ i < ms.length, id.child i = x := by
        rintro ⟨i, hlt, heq⟩
        exact hchild i hlt heq.symm
      refine View.ext rfl (hstarted.tasks_other hne hchild) (propext ?_) rfl rfl rfl rfl
      simp only [Gathering.view, hstarted.queue, hnot, or_false]
    rw [hview]
    exact hfits

/-- The tasks of a group that starts are linked to their owner. -/
theorem start_linked {i : Nat} (hx : (g'.tasks (x.child i)).isAlive = true) :
    x = .outer ∨ g'.Linked (some id) x i := by
  rcases TaskId.cases_of_group id x ms with rfl | ⟨k, m, hk, rfl⟩ | ⟨hne, hchild⟩
  · refine .inr (.inl ⟨_, _, hstarted.tasks_self, ?_, .inl rfl⟩)
    rcases TaskId.cases_of_group x (x.child i) ms with heq | ⟨j, m, hj, heq⟩ | ⟨hne, hchild⟩
    · exact absurd heq (TaskId.child_ne x i)
    · obtain ⟨hlt, -⟩ := List.getElem?_eq_some_iff.mp hj
      rw [(TaskId.child_injective heq).2]
      exact List.mem_range.mpr hlt
    · rw [hstarted.tasks_other hne hchild, (h.unstarted halive hwaiting i).1.1] at hx
      cases hx
  · rw [hstarted.isAlive_child halive (by simp), ((h.unstarted halive hwaiting k).2 i).1] at hx
    cases hx
  · rw [hstarted.isAlive_child halive hne] at hx
    have hlinked := h.linked x i hx
    unfold Gathering.Linked Gathering.Cancelled at hlinked ⊢
    rwa [hstarted.tasks_other hne hchild, hstarted.doomed, hstarted.log]

end Start

/-- The active task has its delays behind it, and starts a group. -/
theorem startAll (h : Regular plan (some id) extra g) {t : Nat} {ds : List Nat} {ms : List Member}
    {ending : Ending} (hplan : plan id = some (t, .grouped ds ms ending))
    (halive : (g.tasks id).isAlive = true) (hwaiting : (g.tasks id).isWaiting = false)
    (hnow : g.now = t + ds.sum) :
    Regular plan (some id) extra
      ((g.set id (.waiting (.ofSize ms.length) ending)).startAll id 0 ms) := by
  have hstarted := g.started id ms ending
  -- only the owner and the tasks of the group are new, so each fact is split on these
  obtain ⟨ts, q, heq⟩ : ∃ ts q, (g.set id (.waiting (.ofSize ms.length) ending)).startAll id 0 ms =
      { g with tasks := ts, queue := q } := ⟨_, _, hstarted.frame⟩
  rw [heq] at hstarted ⊢
  have houter := h.ne_outer halive
  have hroot := h.ne_root halive hwaiting
  constructor
  case coherent => exact h.coherent
  case planned =>
    intro x hx
    rcases TaskId.cases_of_group id x ms with rfl | ⟨i, m, hi, rfl⟩ | ⟨hne, hchild⟩
    · rw [hplan]; rfl
    · rw [h.planned_child hplan hi]; rfl
    · exact h.planned x (by rwa [hstarted.tasks_other hne hchild] at hx)
  case alarms => exact h.alarms
  case recorded => exact h.recorded
  case fits =>
    exact fun x t' m' hx hplan' => h.start_fits hplan halive hwaiting hstarted hnow
      (fun heq => hx (congrArg some heq)) hplan'
  case linked => exact fun x i hx => h.start_linked halive hwaiting hstarted hx
  case running =>
    intro x i hi
    rcases TaskId.cases_of_group id x ms with rfl | ⟨k, m, hk, rfl⟩ | ⟨hne, hchild⟩
    · rw [hstarted.tasks_self] at hi
      rw [hstarted.tasks_child (List.getElem?_eq_getElem (List.mem_range.mp hi))]
      rfl
    · rw [hstarted.tasks_child hk] at hi
      cases hi
    · rw [hstarted.tasks_other hne hchild] at hi
      rw [hstarted.isAlive_child halive hne]
      exact h.running x i hi
  case doomed =>
    intro x hx hx'
    rcases TaskId.cases_of_group id x ms with rfl | ⟨i, m, hi, rfl⟩ | ⟨hne, hchild⟩
    · exact .inl rfl
    · exact absurd hx (h.unstarted halive hwaiting i).1.2.2
    · rw [hstarted.tasks_other hne hchild] at hx'
      exact (h.doomed x hx hx').imp_right fun hmem => (hstarted.queue x).mpr (.inl hmem)
  case queued =>
    intro x hx
    rcases TaskId.cases_of_group id x ms with rfl | ⟨i, m, hi, rfl⟩ | ⟨hne, hchild⟩
    · rw [hstarted.tasks_self]
      rfl
    · rw [hstarted.tasks_child hi]
      rfl
    · rw [hstarted.tasks_other hne hchild]
      refine h.queued x (((hstarted.queue x).mp hx).resolve_right ?_)
      rintro ⟨i, hi, heq⟩
      exact hchild i hi heq.symm
  case nodup => exact hstarted.nodup h.nodup
  case lineage =>
    intro x i htouched
    rcases TaskId.cases_of_group id x ms with rfl | ⟨k, m, hk, rfl⟩ | ⟨hne, hchild⟩
    · rw [hstarted.tasks_self]
      exact .inr (.inr (.inl rfl))
    · refine absurd htouched ?_
      rw [not_or, not_not]
      exact ((h.unstarted halive hwaiting k).2 i).2
    · rw [hstarted.tasks_other hne hchild]
      exact h.lineage x i htouched
  case outer =>
    rw [hstarted.tasks_other houter.symm fun i _ => (TaskId.child_ne_outer id i).symm]
    exact h.outer
  case outside =>
    intro i t' m' hplan'
    rw [hstarted.isAlive_child halive houter.symm]
    exact h.outside i t' m' hplan'
  case rootPlan => exact h.rootPlan
  case root =>
    refine ⟨fun hmem => ?_, h.root.2⟩
    rcases (hstarted.queue _).mp hmem with hmem | ⟨i, -, heq⟩
    · exact h.root.1 hmem
    · exact TaskId.child_ne_root id i heq
  case quiet => exact h.quiet
  case returned =>
    have hreturned := h.returned
    have hrootTask : ts .root = g.tasks .root :=
      hstarted.tasks_other hroot.symm fun i _ => (TaskId.child_ne_root id i).symm
    rwa [← hrootTask] at hreturned

/-! ## The end of a task -/

end Regular

section Announce

variable {begun now : Nat} {ms : List Member} {c : Crew} {place : Nat} {m : Member} {r : Result}

/-- A failure that an owner hears of is one that was before it, or has just come in. -/
theorem Crew.failed_announce {e : Ending} (he : (c.announce place r).Failed e) :
    c.Failed e ∨ r = some e ∧ e.isOk = false := by
  unfold Crew.Failed Crew.announce at he
  simp only [List.mem_append, List.mem_singleton] at he
  rcases he with hfailure | ⟨hnot, (hmem | heq) | hmem⟩
  · exact .inl (.inl hfailure)
  · exact .inl (.inr ⟨hnot, .inl hmem⟩)
  · exact .inr ⟨heq.symm, hnot⟩
  · exact .inl (.inr ⟨hnot, .inr hmem⟩)

theorem Crew.Failed.announce {e : Ending} (h : c.Failed e) (place : Nat) (r : Result) :
    (c.announce place r).Failed e := by
  rcases h with h | ⟨hnot, hmem | hmem⟩
  · exact .inl h
  · exact .inr ⟨hnot, .inl (List.mem_append_left _ hmem)⟩
  · exact .inr ⟨hnot, .inr hmem⟩

theorem Crew.size_announce (hplace : place ∈ c.running) (r : Result) :
    (c.announce place r).size = c.size := by
  have := List.length_pos_of_mem hplace
  simp only [Crew.size, Crew.announce, List.length_erase_of_mem hplace, List.length_append,
    List.length_singleton]
  omega

/-- A task of a group ends, because there was a failure or in its time. -/
theorem Crew.Fits.announce (h : c.Fits begun ms now) (hm : ms[place]? = some m)
    (hplace : place ∈ c.running) (hnow : now ≤ begun + Member.groupDuration ms)
    (hresult : r = none ∧ c.failure ≠ none ∨
      ∃ e, r = some e ∧ m.EndsWith e ∧ now = begun + m.duration) :
    (c.announce place r).Fits begun ms now where
  nodup := h.nodup.erase place
  size_le := by rw [Crew.size_announce hplace]; exact h.size_le
  begun_le := h.begun_le
  gone i m' hi hnot := by
    by_cases hplace : i = place
    · obtain rfl : m' = m := by
        rw [hplace, hm] at hi
        exact (Option.some.inj hi).symm
      rcases hresult with ⟨-, hfailure⟩ | ⟨e, rfl, hends, htime⟩
      · obtain ⟨e, he⟩ := Option.ne_none_iff_exists'.mp hfailure
        exact .inl ⟨e, Crew.Failed.announce (.inl he) place r⟩
      · cases hok : e.isOk with
        | false =>
          exact .inl ⟨e, .inr ⟨hok, .inl (List.mem_append_right _ (List.mem_singleton_self _))⟩⟩
        | true =>
          rw [hends.isOk, Bool.not_eq_true'] at hok
          exact .inr ⟨hok, Nat.le_of_eq htime.symm⟩
    · have hnot' : i ∉ c.running := fun hmem =>
        hnot ((List.mem_erase_of_ne hplace).mpr hmem)
      exact (h.gone i m' hi hnot').imp_left fun ⟨e, he⟩ => ⟨e, he.announce place r⟩
  failed e he := by
    rcases Crew.failed_announce he with he | ⟨rfl, hnot⟩
    · exact h.failed e he
    · obtain ⟨e', heq, hends, htime⟩ := hresult.resolve_left fun hnone => by cases hnone.1
      cases heq
      have hfails : m.fails = true := by simpa [hends.isOk] using hnot
      have hmem := List.mem_of_getElem? hm
      have hleast := Member.groupDuration_le_of_fails hmem hfails
      exact ⟨by omega, m, hmem, hfails, by omega, hends⟩

/-- The owner of a group hears that one of its tasks has ended. -/
theorem Fits.announce {x : TaskId} {t : Nat} {m₀ : Member} {v : View} {ending : Ending}
    (h : Fits x t m₀ v) (htask : v.task = .waiting c ending) (hm : m₀.children[place]? = some m)
    (hplace : place ∈ c.running)
    (hresult : r = none ∧ c.failure ≠ none ∨
      ∃ e, r = some e ∧ m.EndsWith e ∧ v.now = t + m₀.delays.sum + m.duration) :
    Fits x t m₀ { v with
      task := .waiting (c.announce place r) ending
      queued := v.queued ∨ c.watched = true } := by
  obtain ⟨ds, ms, rfl, hlog, hnow, hcrew, hsize, hqueued, haside, halarm⟩ := h.of_waiting htask
  have hnow' : v.now ≤ t + ds.sum + Member.groupDuration ms := by
    rw [Member.duration_eq] at hnow
    simpa [Member.delays, Member.children, Nat.add_assoc] using hnow
  refine .waiting rfl rfl hlog hnow (hcrew.announce hm hplace hnow' hresult) ?_ ?_ haside halarm
  · rwa [Crew.size_announce hplace]
  · intro _
    by_cases hwatched : c.watched = true
    · exact .inr hwatched
    · exact .inl (hqueued (.inr (Bool.not_eq_true _ ▸ hwatched)))

end Announce

namespace Regular

variable {plan : Plan} {extra : List TaskId} {g : Gathering} {x id : TaskId} {active : Option TaskId}

/-- The owner of a group is planned if one of its tasks is. -/
theorem plan_of_child (h : Regular plan active extra g) {i t : Nat} {m : Member}
    (hplan : plan (x.child i) = some (t, m)) :
    ∃ t₀ m₀, plan x = some (t₀, m₀) ∧ m₀.children[i]? = some m ∧ t = t₀ + m₀.delays.sum := by
  rw [h.coherent] at hplan
  obtain ⟨⟨t₀, m₀⟩, hx, hchild⟩ := Option.bind_eq_some_iff.mp hplan
  obtain ⟨m', hm', heq⟩ := Option.map_eq_some_iff.mp hchild
  cases heq
  exact ⟨t₀, m₀, hx, hm', rfl⟩

/-- An owner that waits has its tasks that have not ended among its own, and cancels them if and
only if it has seen a failure. -/
theorem owned (h : Regular plan active extra g) (hactive : active ≠ some x) {crew : Crew}
    {ending : Ending} (htask : g.tasks x = .waiting crew ending) {i : Nat}
    (halive : (g.tasks (x.child i)).isAlive = true) :
    i ∈ crew.running ∧ (x.child i ∈ g.doomed ↔ crew.failure ≠ none) := by
  have houter : x ≠ .outer := h.ne_outer (by rw [htask]; rfl)
  rcases (h.linked x i halive).resolve_left houter with
    ⟨crew', ending', htask', hi, hdoomed⟩ | ⟨hdead, -⟩
  · rw [htask] at htask'
    cases htask'
    exact ⟨hi, hdoomed.resolve_left hactive⟩
  · rw [htask] at hdead
    cases hdead

/-- When an owner has no tasks any more, they have ended. -/
theorem children_ended (h : Regular plan active extra g) (halive : (g.tasks x).isAlive = true)
    (hrunning : (g.tasks x).running = []) (i : Nat) : (g.tasks (x.child i)).isAlive = false := by
  rw [← Bool.not_eq_true]
  intro hchild
  rcases (h.linked x i hchild).resolve_left (h.ne_outer halive) with
    ⟨crew, ending, htask, hi, -⟩ | ⟨hdead, -⟩
  · rw [htask] at hrunning
    rw [show crew.running = [] from hrunning] at hi
    cases hi
  · rw [halive] at hdead
    cases hdead

/-- An owner that waits has no task twice among its own. -/
theorem nodup_running (h : Regular plan active extra g) (hactive : active ≠ some x) {crew : Crew}
    {ending : Ending} (htask : g.tasks x = .waiting crew ending) : crew.running.Nodup := by
  obtain ⟨⟨t, m⟩, hplan⟩ := Option.isSome_iff_exists.mp (h.planned x (by rw [htask]; rfl))
  obtain ⟨ds, ms, -, -, -, hcrew, -⟩ := (h.fits x t m hactive hplan).of_waiting htask
  exact hcrew.nodup

section Finish

variable {owner : TaskId} {place : Nat} {r : Result} {g' : Gathering}

theorem view_finished (hfinished : Gathering.Finished owner place r g g') (extra : List TaskId)
    (x : TaskId) :
    g'.view extra x = { g.view extra x with
      task := g'.tasks x
      queued := (g.view extra x).queued ∨
        x = owner ∧ Gathering.watches (g.tasks owner) = true } := by
  obtain ⟨ts, q, c, rfl⟩ : ∃ ts q c, g' = { g with tasks := ts, queue := q, called := c } :=
    ⟨_, _, _, hfinished.frame⟩
  refine View.ext rfl rfl (propext ?_) rfl rfl rfl rfl
  simp only [Gathering.view, hfinished.queue, hfinished.called]
  constructor
  · rintro ((hx | ⟨hx, -, hw⟩) | ⟨hx, hc | ⟨ho, hw⟩⟩)
    exacts [.inl (.inl hx), .inr ⟨hx, hw⟩, .inl (.inr ⟨hx, hc⟩), .inr ⟨hx.trans ho.symm, hw⟩]
  · rintro ((hx | hx) | ⟨hx, hw⟩)
    · exact .inl (.inl hx)
    · exact .inr ⟨hx.1, .inl hx.2⟩
    · by_cases ho : owner = .root
      · exact .inr ⟨hx.trans ho, .inr ⟨ho, hw⟩⟩
      · exact .inl (.inr ⟨hx, ho, hw⟩)

variable (h : Regular plan (some (owner.child place)) extra g)
  (hfinished : Gathering.Finished owner place r g g')

include h hfinished

/-- When a task ends, it has told its story or has been cancelled, and its owner, if it waits, has
one more result. All others are where they were. -/
theorem finish_fits {t t' : Nat} {m m' : Member}
    (hplan : plan (owner.child place) = some (t, m))
    (halive : (g.tasks (owner.child place)).isAlive = true)
    (hended : m.Ended t (g.log (owner.child place)))
    (halarm : ∀ u, (u, owner.child place) ∉ g.alarms)
    (hresult : r = none ∧ owner.child place ∈ g.doomed ∨
      ∃ e, r = some e ∧ m.EndsWith e ∧ g.now = t + m.duration)
    (hplan' : plan x = some (t', m')) : Fits x t' m' (g'.view extra x) := by
  have hview := view_finished hfinished extra x
  by_cases hx : x = owner.child place
  · subst hx
    rw [hplan] at hplan'
    cases hplan'
    rw [hview]
    exact .ended hfinished.tasks_self hended halarm
  have hactive : some (owner.child place) ≠ some x := fun heq => hx (Option.some.inj heq).symm
  have hfits := h.fits x t' m' hactive hplan'
  -- only an owner that waits is told anything
  have hsame (htask : g'.tasks x = g.tasks x)
      (hcalls : ¬ (x = owner ∧ Gathering.watches (g.tasks owner) = true)) :
      Fits x t' m' (g'.view extra x) := by
    have heqview : g'.view extra x = g.view extra x :=
      hview.trans (View.ext rfl htask (propext (or_iff_left hcalls)) rfl rfl rfl rfl)
    rw [heqview]
    exact hfits
  by_cases hxo : x = owner
  · subst hxo
    obtain ⟨t₀, m₀, hplan₀, hm, rfl⟩ := h.plan_of_child hplan
    rw [hplan₀] at hplan'
    cases hplan'
    cases htask : g.tasks x with
    | waiting crew ending =>
      obtain ⟨hplace, hdoomed⟩ := h.owned hactive htask halive
      have hannounced := hfits.announce htask hm hplace (hresult.imp_left fun hnone =>
        ⟨hnone.1, hdoomed.mp hnone.2⟩)
      rw [hview, hfinished.tasks_owner, htask]
      simpa [Gathering.watches, Gathering.told] using hannounced
    | fresh | asleep | yielded | ended =>
      refine hsame (by rw [hfinished.tasks_owner, htask]; rfl) ?_
      rw [htask]
      exact fun h => by cases h.2
  · exact hsame (hfinished.tasks_other x hx hxo) fun h => hxo h.1

/-- When a task ends whose own tasks have not, then it has been cancelled, and they are. -/
theorem finish_linked (halive : (g.tasks (owner.child place)).isAlive = true)
    (horphans : ∀ i ∈ (g.tasks (owner.child place)).running,
      (owner.child place).child i ∈ g.doomed ∧ g.Cancelled (owner.child place))
    {i : Nat} (hx : (g'.tasks (x.child i)).isAlive = true) :
    x = .outer ∨ g'.Linked none x i := by
  obtain ⟨hne, hx⟩ := hfinished.of_isAlive hx
  refine (h.linked x i hx).imp_right fun hlinked => ?_
  unfold Gathering.Linked Gathering.Cancelled
  rw [hfinished.doomed, hfinished.log]
  by_cases hxid : x = owner.child place
  · subst hxid
    refine .inr ⟨hfinished.isAlive_self, ?_⟩
    rcases hlinked with ⟨crew, ending, htask, hi, -⟩ | ⟨hnot, -⟩
    · exact horphans i (by rwa [htask])
    · rw [halive] at hnot
      cases hnot
  rcases hlinked with ⟨crew, ending, htask, hi, hdoomed⟩ | ⟨hnot, hrest⟩
  · left
    have hdoomed' := hdoomed.resolve_left fun heq => hxid (Option.some.inj heq).symm
    by_cases hxo : x = owner
    · subst hxo
      have hip : i ≠ place := fun heq => hne (by rw [heq])
      refine ⟨crew.announce place r, ending, ?_, ?_, .inr hdoomed'⟩
      · rw [hfinished.tasks_owner, htask]
        rfl
      · exact (List.mem_erase_of_ne hip).mpr hi
    · exact ⟨crew, ending, (hfinished.tasks_other x hxid hxo).trans htask, hi, .inr hdoomed'⟩
  · exact .inr ⟨(hfinished.kept hxid).1.trans hnot, hrest⟩

/-- When a task ends, it is no longer among those of its owner. -/
theorem finish_running {i : Nat} (hi : i ∈ (g'.tasks x).running) :
    (g'.tasks (x.child i)).isAlive = true := by
  have hxid : x ≠ owner.child place := fun heq => by
    subst heq
    rw [hfinished.tasks_self] at hi
    cases hi
  have hkept : i ∈ (g.tasks x).running ∧ x.child i ≠ owner.child place := by
    by_cases hxo : x = owner
    · subst hxo
      rw [hfinished.tasks_owner] at hi
      cases htask : g.tasks x with
      | waiting crew ending =>
        have hnodup := h.nodup_running (fun heq => hxid (Option.some.inj heq).symm) htask
        rw [htask] at hi
        obtain ⟨hip, hi⟩ := hnodup.mem_erase_iff.mp hi
        exact ⟨hi, fun heq => hip (TaskId.child_injective heq).2⟩
      | fresh | asleep | yielded | ended => rw [htask] at hi; cases hi
    · rw [hfinished.tasks_other x hxid hxo] at hi
      exact ⟨hi, fun heq => hxo (TaskId.child_injective heq).1⟩
  exact (hfinished.kept hkept.2).1.trans (h.running x i hkept.1)

end Finish

/-- The active task ends, because it is cancelled or in its time. -/
theorem finish (h : Regular plan (some id) extra g) {t : Nat} {m : Member} {r : Result}
    (hplan : plan id = some (t, m)) (hroot : id ≠ .root) (halive : (g.tasks id).isAlive = true)
    (hqueued : id ∉ g.queue)
    (hended : m.Ended t (g.log id)) (halarm : ∀ u, (u, id) ∉ g.alarms)
    (hreached : (g.tasks id).isWaiting = true → g.log id ≠ [])
    (horphans : ∀ i ∈ (g.tasks id).running,
      id.child i ∈ g.doomed ∧ g.Cancelled id)
    (hresult : r = none ∧ id ∈ g.doomed ∨
      ∃ e, r = some e ∧ m.EndsWith e ∧ g.now = t + m.duration ∧ g.log id = m.story t e) :
    Regular plan none extra (g.finish id r) := by
  obtain ⟨owner, place, rfl⟩ := TaskId.exists_child hroot (h.ne_outer halive)
  have hfinished := g.finished owner place r
  obtain ⟨ts, q, c, heq⟩ : ∃ ts q c, g.finish (owner.child place) r =
      { g with tasks := ts, queue := q, called := c } := ⟨_, _, _, hfinished.frame⟩
  rw [heq] at hfinished ⊢
  constructor
  case coherent => exact h.coherent
  case planned => exact fun x hx => h.planned x (hfinished.of_isAlive hx).2
  case alarms => exact h.alarms
  case recorded => exact h.recorded
  case fits =>
    exact fun x t' m' _ hplan' => h.finish_fits hfinished hplan halive hended halarm
      (hresult.imp_right fun ⟨e, hr, hends, hnow, _⟩ => ⟨e, hr, hends, hnow⟩) hplan'
  case linked => exact fun x i hx => h.finish_linked hfinished halive horphans hx
  case running => exact fun x i hi => h.finish_running hfinished hi
  case doomed =>
    intro x hx hxalive
    obtain ⟨hne, hxalive⟩ := hfinished.of_isAlive hxalive
    refine .inr ((hfinished.queue x).mpr (.inl ?_))
    exact (h.doomed x hx hxalive).resolve_left fun heq => hne (Option.some.inj heq).symm
  case queued =>
    intro x hx
    rcases (hfinished.queue x).mp hx with hmem | ⟨heq, -, hwatches⟩
    · have hne : x ≠ owner.child place := fun heq => hqueued (heq ▸ hmem)
      exact (hfinished.kept hne).1.trans (h.queued x hmem)
    · rw [heq]
      refine (hfinished.kept (TaskId.ne_child owner place)).1.trans ?_
      cases htask : g.tasks owner with
      | waiting => rfl
      | fresh | asleep | yielded | ended => rw [htask] at hwatches; cases hwatches
  case nodup => exact hfinished.nodup h.nodup
  case lineage =>
    intro x i htouched
    by_cases hxid : x = owner.child place
    · subst hxid
      refine .inr (.inr (.inr ⟨hfinished.isAlive_self, ?_⟩))
      rcases ((h.lineage _ i htouched).resolve_left (by simp)).resolve_left (by simp) with hw | hd
      · exact hreached hw
      · exact hd.2
    · have hlineage := h.lineage x i htouched
      rwa [← (hfinished.kept hxid).1, ← (hfinished.kept hxid).2] at hlineage
  case outer => exact (hfinished.kept (TaskId.child_ne_outer owner place).symm).1.trans h.outer
  case outside =>
    intro i t' m' hplan'
    obtain ⟨hnot, hstory⟩ := h.outside i t' m' hplan'
    refine ⟨hnot, fun hdead => ?_⟩
    by_cases hid : TaskId.outer.child i = owner.child place
    · rw [hid] at hnot hplan' ⊢
      rw [hplan] at hplan'
      cases hplan'
      obtain ⟨e, -, hends, -, hlog⟩ := hresult.resolve_left fun hnone => hnot hnone.2
      exact ⟨e, hends, hlog⟩
    · exact hstory ((hfinished.kept hid).1.symm.trans hdead)
  case rootPlan => exact h.rootPlan
  case root =>
    refine ⟨fun hmem => ?_, h.root.2⟩
    rcases (hfinished.queue _).mp hmem with hmem | ⟨heq, hne, -⟩
    · exact h.root.1 hmem
    · exact hne heq.symm
  case quiet => exact h.quiet
  case returned =>
    have hreturned := h.returned
    have hrootTask := hfinished.kept (TaskId.child_ne_root owner place).symm
    rw [← hrootTask.1, ← hrootTask.2] at hreturned
    exact hreturned

end Regular

end DbLifecycle
