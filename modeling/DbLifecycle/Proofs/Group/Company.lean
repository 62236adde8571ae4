import DbLifecycle.Proofs.Group.Return

/-!
# Families in company

What a task outside of a group and the tasks of its groups do is nothing to the other tasks, and the
other way round.

* `family`: a task outside, and the tasks of its groups.
* `Alike.of_turn`: the turn of any other task leaves the family alone.
* `Gathering.alone`, `Confined.of_turn`: a family without any other tasks.
* `Beside`, **`Beside.step`**: a step in company is one that the family takes alone, or none.
* `Beside.start`, `Beside.steps`: so it goes from the beginning on, if no task of it gives way.
-/

namespace DbLifecycle

/-! ## Families -/

instance (y x : TaskId) : Decidable (y.Above x) :=
  inferInstanceAs (Decidable (y.outside = x.outside ∧ y.path <+: x.path))

/-- A task outside, and the tasks of its groups. -/
def family (j : Nat) (x : TaskId) : Bool := decide ((TaskId.outer.child j).Above x)

theorem family_family (j : Nat) : Family (family j) where
  child x i hx := decide_eq_true ((of_decide_eq_true hx).trans (x.above_child i))
  owner x i hx := by
    obtain ⟨houtside, hpath⟩ := of_decide_eq_true hx
    obtain ⟨o, path⟩ := x
    obtain rfl : o = true := houtside.symm
    cases path with
    | nil => exact .inr rfl
    | cons k path =>
      refine .inl (decide_eq_true ⟨rfl, ?_⟩)
      rw [show (TaskId.outer.child j).path = [j] from rfl] at hpath ⊢
      rw [show (TaskId.child ⟨true, k :: path⟩ i).path = k :: (path ++ [i]) from rfl] at hpath
      rw [List.singleton_prefix_cons_iff] at hpath ⊢
      exact hpath

theorem family_root (j : Nat) : family j .root = false := rfl

theorem family_outer (j : Nat) : family j .outer = false := by
  simp [family, TaskId.Above, TaskId.outer, TaskId.child]

namespace Gathering

variable {F : TaskId → Bool} {c : Recast} {g g' p : Gathering} {id : TaskId}

/-! ## Turns of other tasks -/

theorem filter_foldl_enqueue (q ids : List TaskId) (F : TaskId → Bool) :
    (ids.foldl enqueue q).filter F = (ids.filter F).foldl enqueue (q.filter F) := by
  induction ids generalizing q with
  | nil => rfl
  | cons id ids ih =>
    rw [List.foldl_cons, ih]
    cases hid : F id with
    | true => rw [filter_enqueue_of_mem q hid, List.filter_cons_of_pos hid, List.foldl_cons]
    | false =>
      rw [List.filter_cons_of_neg (by simp [hid])]
      congr 1
      unfold enqueue
      split
      · rfl
      · simp [hid]

theorem child_eq_false (hF : Family F) (hid : F id = false) (houter : id ≠ .outer) {i : Nat} :
    F (id.child i) = false := by
  rw [← Bool.not_eq_true]
  intro hchild
  rcases hF.owner id i hchild with h | h
  · rw [hid] at h
    cases h
  · exact houter h

theorem filter_children (hF : Family F) (hid : F id = false) (houter : id ≠ .outer)
    (ids : List TaskId) (hids : ∀ x ∈ ids, ∃ i, x = id.child i) : ids.filter F = [] := by
  refine List.filter_eq_nil_iff.mpr fun x hx hfx => ?_
  obtain ⟨i, rfl⟩ := hids x hx
  rw [child_eq_false hF hid houter] at hfx
  cases hfx

theorem marksOf_eq_nil {x : TaskId} {es : List Entry} (h : ∀ t what, .mark t x what ∉ es) :
    marksOf x es = [] := by
  refine List.filterMap_eq_nil_iff.mpr fun entry hmem => ?_
  cases entry with
  | cancelling => rfl
  | mark t y what =>
    refine if_neg fun heq => ?_
    subst heq
    exact h t what hmem

theorem Alike.set_left (h : Alike F c g p) (hid : F id = false)
    (houter : F .outer = true ∨ id ≠ .outer) (t : Task) : Alike F c (g.set id t) p :=
  { h with
    tasks := fun x hx => by
      rw [set_of_ne g fun heq => by rw [heq, hid] at hx; cases hx]
      exact h.tasks x hx
    outer := by
      rcases houter with houter | hne
      · exact .inl houter
      · rw [set_of_ne g hne.symm]
        exact h.outer }

theorem Alike.wake_left (h : Alike F c g p) (hid : F id = false) : Alike F c (g.wake id) p := by
  rw [wake_eq]
  exact
  { h with
    queue := by
      have hfilter := filter_foldl_enqueue g.queue [id] F
      rw [List.filter_cons_of_neg (by simp [hid])] at hfilter
      dsimp only
      split
      · exact h.queue
      · exact h.queue.trans hfilter.symm
    root := fun hroot => by
      have hne : id ≠ .root := fun heq => by rw [heq, hroot] at hid; cases hid
      simpa [hne] using h.root hroot }

theorem Alike.record_left (h : Alike F c g p) (hid : F id = false) {es : List Entry}
    (hes : ∀ t x what, .mark t x what ∈ es → x = id) : Alike F c (g.record es) p := by
  have hlog : ∀ x, F x = true → (g.record es).log x = g.log x := fun x hx => by
    rw [log_record, marksOf_eq_nil fun t what hmem => ?_, List.append_nil]
    rw [← hes t x what hmem, hx] at hid
    cases hid
  rw [record_eq] at hlog ⊢
  exact
  { h with
    log := fun x hx => by
      rw [hlog x hx]
      exact h.log x hx }

theorem Alike.startAll_left (h : Alike F c g p) (hF : Family F) (hid : F id = false)
    (houter : id ≠ .outer) (ms : List Member) : Alike F c (g.startAll id 0 ms) p := by
  rw [startAll_eq]
  exact
  { h with
    tasks := fun x hx => by
      rw [h.tasks x hx]
      refine congrArg _ (spawn_of_ne fun i _ heq => ?_).symm
      rw [heq, child_eq_false hF hid houter] at hx
      cases hx
    queue := by
      have hnone := filter_children hF hid houter
        ((List.range' 0 ms.length).map id.child) fun x hx => by
          obtain ⟨i, -, rfl⟩ := List.mem_map.mp hx
          exact ⟨i, rfl⟩
      rw [h.queue, filter_foldl_enqueue, hnone]
      rfl
    outer := by
      dsimp only
      rw [spawn_of_ne fun i _ => (TaskId.child_ne_outer id _).symm]
      exact h.outer }

theorem Alike.abortAll_left (h : Alike F c g p) (hF : Family F) (hid : F id = false)
    (houter : id ≠ .outer) (places : List Nat) : Alike F c (g.abortAll id places) p := by
  have hvictims : ∀ x ∈ g.victims id places, ∃ i, x = id.child i := fun x hx => by
    obtain ⟨⟨i, -, rfl⟩, -⟩ := g.mem_victims.mp hx
    exact ⟨i, rfl⟩
  rw [abortAll_eq]
  exact
  { h with
    queue := by
      rw [h.queue, filter_foldl_enqueue, filter_children hF hid houter _ hvictims]
      rfl
    doomed := fun x hx => by
      rw [h.doomed x hx, List.mem_append, List.mem_reverse]
      refine ⟨.inr, fun hmem => hmem.resolve_left fun hmem => ?_⟩
      obtain ⟨i, rfl⟩ := hvictims x hmem
      rw [child_eq_false hF hid houter] at hx
      cases hx }

theorem Alike.reschedule_left (h : Alike F c g p) (hid : F id = false)
    {alarms : List (Nat × TaskId)} {deferred : List TaskId}
    (halarms : alarms.filter (·.2 != id) = g.alarms.filter (·.2 != id))
    (hdeferred : deferred = g.deferred ∨ deferred = id :: g.deferred) (left : Nat) :
    Alike F c { g with alarms, deferred, left } p := by
  have hothers : ∀ {alarms : List (Nat × TaskId)},
      (alarms.filter (·.2 != id)).filter (F ·.2) = alarms.filter (F ·.2) := fun {alarms} => by
    rw [List.filter_filter]
    refine List.filter_congr fun a _ => ?_
    cases ha : F a.2 with
    | false => rfl
    | true =>
      have hne : a.2 ≠ id := fun heq => by rw [heq, hid] at ha; cases ha
      simpa using hne
  exact
  { h with
    alarms := by
      rw [h.alarms, ← hothers, ← halarms, hothers]
    deferred := by
      rw [h.deferred]
      rcases hdeferred with rfl | rfl
      · rfl
      · rw [List.filter_cons_of_neg (by simp [hid])] }

/-- A change that any other task makes is nothing to the family. -/
theorem Alike.of_part (h : Alike F c g p) (hF : Family F) (hid : F id = false)
    (houter : id ≠ .outer) (hpart : Part id g g') : Alike F c g' p := by
  have howner : ∀ {owner place}, id.parent? = some (owner, place) → F owner = false := by
    intro owner place hparent
    rw [← Bool.not_eq_true]
    intro howner
    rw [TaskId.eq_child_of_parent? hparent, hF.child _ _ howner] at hid
    cases hid
  cases hpart with
  | record hes => exact h.record_left hid fun t x what hmem => (hes t x what hmem).2.1
  | set => exact h.set_left hid (.inr houter) _
  | tell hparent htask =>
    refine h.set_left (howner hparent) (h.outer.imp_right fun hdead heq => ?_) _
    rw [heq, Task.eq_ended hdead.1] at htask
    cases htask
  | wake hx =>
    rcases hx with rfl | ⟨⟨place, hparent⟩, -⟩
    · exact h.wake_left hid
    · exact h.wake_left (howner hparent)
  | startAll _ ms => exact h.startAll_left hF hid houter ms
  | abortAll places => exact h.abortAll_left hF hid houter places
  | reschedule halarms hdeferred left => exact h.reschedule_left hid halarms hdeferred left

theorem Alike.of_turn (h : Alike F c g p) (hF : Family F) (hid : F id = false)
    (houter : id ≠ .outer) (hturn : Turn id g g') : Alike F c g' p := by
  induction hturn with
  | refl => exact h
  | tail _ hpart ih => exact ih.of_part hF hid houter hpart

/-! ## A family alone -/

/-- A family without any other tasks, before anything has run. -/
def alone (id : TaskId) (m : Member) : Gathering where
  tasks x := if x = id then .fresh m else .ended
  queue := [id]

/-- There is nothing but a family. -/
structure Confined (F : TaskId → Bool) (p : Gathering) : Prop where
  queue : ∀ x ∈ p.queue, F x = true
  alarms : ∀ a ∈ p.alarms, F a.2 = true
  deferred : ∀ x ∈ p.deferred, F x = true
  called : p.called = false
  outer : (p.tasks .outer).isAlive = false

/-- Alone, a family has nothing but its first task to run. -/
theorem Confined.alone (hid : F id = true) (houter : id ≠ .outer) (m : Member) :
    Confined F (alone id m) where
  queue x hx := by
    rw [List.mem_singleton.mp hx]
    exact hid
  alarms a ha := absurd ha List.not_mem_nil
  deferred x hx := absurd hx List.not_mem_nil
  called := rfl
  outer := by
    show (if TaskId.outer = id then Task.fresh m else .ended).isAlive = false
    rw [if_neg houter.symm]
    rfl

theorem Confined.set (h : Confined F g) (hid : id ≠ .outer) (t : Task) : Confined F (g.set id t) :=
  { h with
    outer := by
      rw [set_of_ne g hid.symm]
      exact h.outer }

theorem Confined.wake (h : Confined F g) (hid : F id = true) (hroot : F .root = false) :
    Confined F (g.wake id) := by
  have hne : id ≠ .root := fun heq => by rw [heq, hroot] at hid; cases hid
  rw [wake_of_ne_root g hne]
  exact
  { h with
    queue := fun x hx => by
      rcases mem_enqueue.mp hx with hx | rfl
      · exact h.queue x hx
      · exact hid }

theorem Confined.startAll (h : Confined F g) (hF : Family F) (hid : F id = true)
    (ms : List Member) : Confined F (g.startAll id 0 ms) := by
  rw [startAll_eq]
  exact
  { h with
    queue := fun x hx => by
      rcases mem_foldl_enqueue.mp hx with hx | hx
      · exact h.queue x hx
      · obtain ⟨i, -, rfl⟩ := List.mem_map.mp hx
        exact hF.child id i hid
    outer := by
      dsimp only
      rw [spawn_of_ne fun i _ => (TaskId.child_ne_outer id _).symm]
      exact h.outer }

theorem Confined.abortAll (h : Confined F g) (hF : Family F) (hid : F id = true)
    (places : List Nat) : Confined F (g.abortAll id places) := by
  rw [abortAll_eq]
  exact
  { h with
    queue := fun x hx => by
      rcases mem_foldl_enqueue.mp hx with hx | hx
      · exact h.queue x hx
      · obtain ⟨⟨i, -, rfl⟩, -⟩ := g.mem_victims.mp hx
        exact hF.child id i hid }

/-- A change of a task of the family concerns only the family. -/
theorem Confined.of_part (h : Confined F g) (hF : Family F) (hid : F id = true)
    (hroot : F .root = false) (houter : F .outer = false) (hpart : Part id g g') :
    Confined F g' := by
  have hne : id ≠ .outer := fun heq => by rw [heq, houter] at hid; cases hid
  have howner : ∀ {owner place}, id.parent? = some (owner, place) → (g.tasks owner).isAlive = true →
      owner ≠ .outer ∧ F owner = true := fun {owner place} hparent halive => by
    have hno : owner ≠ .outer := fun heq => by rw [heq, h.outer] at halive; cases halive
    rw [TaskId.eq_child_of_parent? hparent] at hid
    exact ⟨hno, (hF.owner owner place hid).resolve_right hno⟩
  cases hpart with
  | record =>
    rw [record_eq]
    exact { h with }
  | set => exact h.set hne _
  | tell hparent htask => exact h.set (howner hparent (by rw [htask]; rfl)).1 _
  | wake hx =>
    rcases hx with rfl | ⟨⟨place, hparent⟩, halive⟩
    · exact h.wake hid hroot
    · exact h.wake (howner hparent halive).2 hroot
  | startAll _ ms => exact h.startAll hF hid ms
  | abortAll places => exact h.abortAll hF hid places
  | reschedule halarms hdeferred =>
    exact
    { h with
      deferred := fun x hx => by
        rcases hdeferred with rfl | rfl
        · exact h.deferred x hx
        · rcases List.mem_cons.mp hx with rfl | hx
          · exact hid
          · exact h.deferred x hx
      alarms := fun a ha => by
        by_cases haid : a.2 = id
        · rw [haid]
          exact hid
        · have hmem : a ∈ g.alarms.filter (·.2 != id) := by
            rw [← halarms]
            exact List.mem_filter.mpr ⟨ha, by simpa using haid⟩
          exact h.alarms a (List.mem_filter.mp hmem).1 }

theorem Confined.of_turn (h : Confined F g) (hF : Family F) (hid : F id = true)
    (hroot : F .root = false) (houter : F .outer = false) (hturn : Turn id g g') :
    Confined F g' := by
  induction hturn with
  | refl => exact h
  | tail _ hpart ih => exact ih.of_part hF hid hroot houter hpart

/-! ## A family in company -/

/-- A family has come as far in company as it has alone. -/
structure Beside (F : TaskId → Bool) (g p : Gathering) : Prop extends Alike F .same g p where
  confined : Confined F p
  now : p.queue ≠ [] → p.now = g.now
  steady : p.deferred = []

theorem Alike.resume_left (h : Alike F c g p) (hF : Family F) (houter : F .outer = false)
    (hid : F id = false) : Alike F c (g.resume id) p := by
  by_cases hid' : id = .outer
  · have hdead := (h.outer.resolve_left (by simp [houter])).1
    unfold resume
    rw [hid', Task.eq_ended hdead]
    exact h
  · exact h.of_turn hF hid hid' (.resume g id)

theorem Alike.resumeAll_left (h : Alike F c g p) (hF : Family F) (houter : F .outer = false)
    {ids : List TaskId} (hids : ∀ x ∈ ids, F x = false) : Alike F c (ids.foldl resume g) p := by
  induction ids generalizing g with
  | nil => exact h
  | cons id ids ih =>
    exact ih (h.resume_left hF houter (hids id List.mem_cons_self)) fun x hx =>
      hids x (List.mem_cons_of_mem _ hx)

/-- The owner of the outermost group looks at its results, and may return. -/
theorem Alike.review_root_left (h : Alike F c g p) (hF : Family F) (hroot : F .root = false)
    (hquiet : (g.tasks .root).isAlive = true → g.Quiet) :
    Alike F c (g.review .root) p ∧ (g.review .root).now = g.now := by
  rcases Turn.review g .root with hturn | ⟨-, g₁, e, hturn, halive, heq⟩
  · exact ⟨h.of_turn hF hroot TaskId.root_ne_outer hturn, (Onward.of_turn hturn).now⟩
  · have honward := Onward.of_turn hturn
    have hquiet₁ := honward.quiet (hquiet (honward.root_isAlive halive))
    have hset := (h.of_turn hF hroot TaskId.root_ne_outer hturn).set_left hroot
      (.inr TaskId.root_ne_outer) .ended
    rw [heq]
    refine ⟨{ hset with
      log := fun x hx => ?_
      root := fun hroot' => by rw [hroot] at hroot'; cases hroot' }, honward.now⟩
    have hlog := hset.log x hx
    rw [log_return hquiet₁.1 hquiet₁.2]
    exact hlog

namespace Beside

variable {plan : Plan}

section Step

variable (hF : Family F) (hroot : F .root = false) (houter : F .outer = false)

theorem queue_eq (h : Beside F g p) : p.queue = g.queue.filter F := by
  rw [← h.queue, List.filter_eq_self.mpr h.confined.queue]

theorem alarms_eq (h : Beside F g p) : p.alarms = g.alarms.filter (F ·.2) := by
  rw [← h.alarms, List.filter_eq_self.mpr h.confined.alarms]

/-- When all is done in company, then also alone. -/
theorem done (h : Beside F g p) (hdone : g.Done) : p.Done := by
  refine ⟨⟨?_, h.confined.called, h.steady⟩, ?_⟩
  · rw [h.queue_eq, hdone.1.queue, List.filter_nil]
  · rw [h.alarms_eq, hdone.2, List.filter_nil]

include hF hroot houter

/-- A round begins: this is nothing to the family. -/
theorem turnRound (h : Beside F g p) (hg : Regular plan none [] g) : Beside F g.turnRound p := by
  have hothers : ∀ x ∈ g.deferred, F x = false := by
    have hnone : g.deferred.filter F = [] := by rw [← h.deferred, h.steady, List.filter_nil]
    simpa [List.filter_eq_nil_iff] using hnone
  have hfirst : Alike F .same { g with ran := 0, deferred := [] } p :=
    { h with
      deferred := by rw [h.steady]
      root := fun hroot' => by rw [hroot] at hroot'; cases hroot' }
  have hresumed := hfirst.resumeAll_left hF houter hothers
  have honward := Onward.resumeAll { g with ran := 0, deferred := [] } g.deferred
  have hg' := hg.recallAll.resumeAll
  unfold Gathering.turnRound
  dsimp only
  generalize g.deferred.foldl resume { g with ran := 0, deferred := [] } = g₁ at *
  have hnow : g₁.now = g.now := honward.now
  split
  · have hcalled : Alike F .same { g₁ with called := false, left := stamina } p :=
      { hresumed with root := fun hroot' => by rw [hroot] at hroot'; cases hroot' }
    obtain ⟨halike, hnow'⟩ := hcalled.review_root_left hF hroot fun halive => by
      have hnone := hg'.root_isAlive.mp halive
      exact ⟨hnone, hg'.quiet hnone⟩
    exact ⟨halike, h.confined, fun hne => (h.now hne).trans (hnow'.trans hnow).symm, h.steady⟩
  · exact ⟨hresumed, h.confined, fun hne => (h.now hne).trans hnow.symm, h.steady⟩

/-- Another task has its turn: this is nothing to the family. -/
theorem run_other (h : Beside F g p) (hid : F id = false) (halive : (g.tasks id).isAlive = true)
    (hid' : id ≠ .root) {rest : List TaskId} (hqueue : g.queue = id :: rest) (ran : Nat) :
    Beside F ({ g with queue := rest, ran, left := stamina }.run id) p := by
  have hne : id ≠ .outer := fun heq => by
    rw [heq, (h.outer.resolve_left (by simp [houter])).1] at halive
    cases halive
  have hpopped : Alike F .same { g with queue := rest, ran, left := stamina } p :=
    { h with
      queue := by rw [h.queue, hqueue, List.filter_cons_of_neg (by simp [hid])]
      root := fun hroot' => by rw [hroot] at hroot'; cases hroot' }
  have hturn := Turn.run (g := { g with queue := rest, ran, left := stamina }) halive hid'
  refine ⟨hpopped.of_turn hF hid hne hturn, h.confined, fun hne' => ?_, h.steady⟩
  exact (h.now hne').trans (Onward.of_turn hturn).now.symm

/-- A task of the family has its turn. -/
theorem run_self (h : Beside F g p) (hid : F id = true) (halive : (g.tasks id).isAlive = true)
    {rest : List TaskId} (hqueue : g.queue = id :: rest) (ran : Nat)
    (hsteady : p.step.deferred = [] ∨
      ∀ x ∈ ({ g with queue := rest, ran, left := stamina }.run id).deferred, F x = false) :
    Beside F ({ g with queue := rest, ran, left := stamina }.run id) p.step := by
  have hid' : id ≠ .root := fun heq => by rw [heq, hroot] at hid; cases hid
  have hqueue' : p.queue = id :: rest.filter F := by
    rw [h.queue_eq, hqueue, List.filter_cons_of_pos hid]
  obtain ⟨ran', hstep⟩ : ∃ ran', p.step =
      { p with queue := rest.filter F, ran := ran', left := stamina }.run id := by
    refine ⟨if p.ran == round then 1 else p.ran + 1, ?_⟩
    simp [step, hqueue', h.confined.called, h.steady]
  rw [hstep] at hsteady ⊢
  have hpopped : Abreast F .same { g with queue := rest, ran, left := stamina }
      { p with queue := rest.filter F, ran := ran', left := stamina } :=
    { h with
      queue := by simp
      root := fun hroot' => by rw [hroot] at hroot'; cases hroot'
      now := h.now (by rw [hqueue']; exact List.cons_ne_nil _ _)
      left := rfl }
  have hrun := hpopped.run hF hid hid'
  have hconfined : Confined F { p with queue := rest.filter F, ran := ran', left := stamina } :=
    { h.confined with queue := fun x hx => (List.mem_filter.mp hx).2 }
  have halive' : (p.tasks id).isAlive = true := by
    rw [h.tasks id hid, Task.isAlive_recast]
    exact halive
  have hconfined' := hconfined.of_turn hF hid hroot houter (.run halive' hid')
  refine ⟨hrun.toAlike, hconfined', fun _ => hrun.now, hsteady.elim (fun h => h) fun hothers => ?_⟩
  rw [← List.filter_eq_self.mpr hconfined'.deferred, hrun.deferred, List.filter_eq_nil_iff]
  simpa using hothers

omit hF hroot houter in
/-- Of the family, the same tasks are due alone as in company. -/
theorem filter_due (h : Beside F g p) (t : Nat) : (g.due t).filter F = p.due t := by
  rw [due, due, h.alarms_eq, List.filter_map, List.filter_comm]
  rfl

omit hF hroot houter in
theorem filter_alarms_waited (h : Beside F g p) (t : Nat) :
    (g.waited t).alarms.filter (F ·.2) = (p.waited t).alarms := by
  show (g.alarms.filter (t < ·.1)).filter (F ·.2) = p.alarms.filter (t < ·.1)
  rw [h.alarms_eq, List.filter_comm]

omit hF houter in
/-- Time passes, and none of the family wakes. -/
theorem waited_other (h : Beside F g p) (hqueue : p.queue = []) {t : Nat} (hnone : p.due t = []) :
    Beside F (g.waited t) p := by
  have hkept : (p.waited t).alarms = p.alarms := by
    refine List.filter_eq_self.mpr fun a ha => ?_
    have hnot := List.filter_eq_nil_iff.mp (List.map_eq_nil_iff.mp hnone) a ha
    simpa using hnot
  exact
  { h with
    queue := by
      show p.queue.filter F = ((g.due t).foldl enqueue g.queue).filter F
      rw [filter_foldl_enqueue, h.filter_due, hnone, ← h.queue]
      rfl
    alarms := by rw [h.filter_alarms_waited, hkept, h.alarms, ← h.alarms_eq]
    root := fun hroot' => by rw [hroot] at hroot'; cases hroot'
    now := fun hne => absurd hqueue hne }

omit hF houter in
/-- Time passes alone as in company. -/
theorem waited_self (h : Beside F g p) (t : Nat) : Beside F (g.waited t) (p.waited t) := by
  have hdue : ∀ x ∈ p.due t, F x = true := fun x hx => by
    obtain ⟨u, hu, -⟩ := mem_due.mp hx
    exact h.confined.alarms _ hu
  exact
  { h with
    queue := by
      show ((p.due t).foldl enqueue p.queue).filter F = ((g.due t).foldl enqueue g.queue).filter F
      rw [filter_foldl_enqueue, filter_foldl_enqueue, h.filter_due, h.queue,
        List.filter_eq_self.mpr hdue]
    alarms := by
      rw [h.filter_alarms_waited]
      exact List.filter_eq_self.mpr fun a ha => h.confined.alarms a (List.mem_filter.mp ha).1
    root := fun hroot' => by rw [hroot] at hroot'; cases hroot'
    now := fun _ => rfl
    confined :=
      { h.confined with
        queue := fun x hx => (mem_foldl_enqueue.mp hx).elim (h.confined.queue x) (hdue x)
        alarms := fun a ha => h.confined.alarms a (List.mem_filter.mp ha).1 } }

omit hF hroot houter in
/-- If one of the family is due at the earliest time in company, then this is the earliest alone. -/
theorem earliest_eq (h : Beside F g p) {t : Nat} (hleast : ∀ u y, (u, y) ∈ g.alarms → t ≤ u)
    (hdue : p.due t ≠ []) : earliest p.alarms = some t := by
  obtain ⟨x, hx⟩ := List.exists_mem_of_ne_nil _ hdue
  obtain ⟨u, hu, hle⟩ := mem_due.mp hx
  have hspec := earliest_spec p.alarms
  cases hnext : earliest p.alarms with
  | none =>
    rw [hnext] at hspec
    rw [hspec] at hu
    cases hu
  | some v =>
    rw [hnext] at hspec
    obtain ⟨⟨y, hy⟩, hleast'⟩ := hspec
    rw [h.alarms_eq] at hy
    have hfirst := hleast v y (List.mem_filter.mp hy).1
    have hnot := hleast' u x hu
    rw [show v = t by omega]

omit hF houter in
/-- Time passes: the family takes part if one of its tasks wakes. -/
theorem wait (h : Beside F g p) (hg : Regular plan none [] g) (hrest : g.AtRest) :
    Beside F g.wait p ∨ Beside F g.wait p.wait := by
  have hspec := earliest_spec g.alarms
  cases hnext : earliest g.alarms with
  | none =>
    left
    unfold Gathering.wait
    rw [hnext]
    exact h
  | some t =>
    rw [hnext] at hspec
    rw [wait_eq hnext fun a ha => (hg.alarm_spec ha).2.2.1]
    by_cases hdue : p.due t = []
    · left
      refine h.waited_other hroot ?_ hdue
      rw [h.queue_eq, hrest.queue, List.filter_nil]
    · right
      rw [wait_eq (h.earliest_eq hspec.2 hdue) fun a ha heq => by
        have hfamily := h.confined.alarms a ha
        rw [heq, hroot] at hfamily
        cases hfamily]
      exact h.waited_self hroot t

/-- A step in company is one that the family takes alone, or none. -/
theorem step (h : Beside F g p) (hg : Regular plan none [] g)
    (hsteady : p.step.deferred = [] ∨ ∀ x ∈ g.step.deferred, F x = false) :
    Beside F g.step p ∨ Beside F g.step p.step := by
  have hpstep : g.AtRest → p.step = p.wait := fun hrest => by
    have hqueue : p.queue = [] := by rw [h.queue_eq, hrest.queue, List.filter_nil]
    simp [Gathering.step, hqueue, h.confined.called, h.steady]
  by_cases hround : ((g.queue.isEmpty || g.ran == round) && (g.called || !g.deferred.isEmpty)) = true
  · left
    rw [Gathering.step, if_pos hround]
    exact h.turnRound hF hroot houter hg
  cases hqueue : g.queue with
  | cons id rest =>
    have hstep : g.step = { g with
        queue := rest
        ran := if g.ran == round then 1 else g.ran + 1
        left := stamina }.run id := by
      rw [Gathering.step, if_neg hround, hqueue]
    have hmem : id ∈ g.queue := by rw [hqueue]; exact List.mem_cons_self
    have halive := hg.queued id hmem
    rw [hstep] at hsteady ⊢
    cases hid : F id with
    | false =>
      exact .inl (h.run_other hF hroot houter hid halive (fun heq => hg.root.1 (heq ▸ hmem)) hqueue _)
    | true => exact .inr (h.run_self hF hroot houter hid halive hqueue _ hsteady)
  | nil =>
    have hstep : g.step = g.wait := by rw [Gathering.step, if_neg hround, hqueue]
    have hidle : g.called = false ∧ g.deferred = [] := by simpa [hqueue] using hround
    have hrest : g.AtRest := ⟨hqueue, hidle.1, hidle.2⟩
    rw [hstep, hpstep hrest]
    exact h.wait hroot hg hrest

end Step

/-- A family takes its steps in company, if no task of it gives way alone or in company. -/
theorem steps (hF : Family F) (hroot : F .root = false) (houter : F .outer = false)
    (h : Beside F g p) (hg : Regular plan none [] g)
    (hsteady : (∀ n, (p.steps n).deferred = []) ∨ ∀ n, ∀ x ∈ (g.steps n).deferred, F x = false)
    (n : Nat) :
    ∃ k, Beside F (g.steps n) (p.steps k) ∧ ∀ i ≤ k, (p.steps i).deferred = [] := by
  -- alone there may be fewer steps: those that are nothing to the family are left out
  induction n generalizing g p with
  | zero =>
    refine ⟨0, h, fun i hi => ?_⟩
    rw [Nat.le_zero.mp hi]
    exact h.steady
  | succ n ih =>
    rcases h.step hF hroot houter hg (hsteady.imp (fun hp => hp 1) fun hg => hg 1) with hnext | hnext
    · exact ih hnext hg.step (hsteady.imp_right fun hg n => hg (n + 1))
    · obtain ⟨k, hk, hbefore⟩ := ih hnext hg.step
        (hsteady.imp (fun hp n => hp (n + 1)) fun hg n => hg (n + 1))
      refine ⟨k + 1, hk, fun i hi => ?_⟩
      cases i with
      | zero => exact h.steady
      | succ i => exact hbefore i (Nat.le_of_succ_le_succ hi)

section Start

variable {outside : List Member} {j : Nat} {m : Member} (members : List Member)

/-- In the beginning, all of a family but its first task is still to come. -/
theorem ready_family {x : TaskId} (hx : family j x = true) (hne : x ≠ .child .outer j) :
    (ready members outside).tasks x = .ended := by
  rcases ready_cases members outside x with rfl | ⟨i, _, _, rfl⟩ | ⟨i, _, _, rfl⟩ | hended
  · rw [family_root] at hx
    cases hx
  · cases (of_decide_eq_true hx).1
  · obtain rfl : j = i := by simpa [family, TaskId.Above, TaskId.child, TaskId.outer] using hx
    exact absurd rfl hne
  · exact hended

/-- In the beginning, nothing of a family but its first task is to be run. -/
theorem filter_ready_queue (hj : outside[j]? = some m) :
    (ready members outside).queue.filter (family j) = [.child .outer j] := by
  have hlt := (List.getElem?_eq_some_iff.mp hj).1
  have hmembers := filter_children (family_family j) (family_root j) TaskId.root_ne_outer
    ((List.range' 0 members.length).map TaskId.root.child) fun x hx => by
      obtain ⟨i, -, rfl⟩ := List.mem_map.mp hx
      exact ⟨i, rfl⟩
  have houtside : ((List.range' 0 outside.length).map TaskId.outer.child).filter (family j) =
      [.child .outer j] := by
    have hplace : (family j ∘ TaskId.outer.child) = (· == j) := by
      funext i
      simp [family, TaskId.Above, TaskId.child, TaskId.outer, Bool.beq_eq_decide_eq, eq_comm]
    have hcount : List.count j (List.range' 0 outside.length) = 1 :=
      List.count_eq_one_of_mem List.nodup_range' (by simpa [List.mem_range'] using hlt)
    rw [List.filter_map, hplace, List.filter_beq, hcount]
    rfl
  simp only [ready]
  rw [filter_foldl_enqueue, filter_foldl_enqueue, hmembers, houtside]
  rfl

/-- In the beginning, a family has done nothing. -/
theorem start (hj : outside[j]? = some m) :
    Beside (family j) (start members outside) (alone (.child .outer j) m) := by
  have hself : family j (.child .outer j) = true := decide_eq_true (.refl _)
  have hready : Alike (family j) .same (ready members outside) (alone (.child .outer j) m) :=
    { tasks := fun x hx => by
        rw [Task.recast_same]
        by_cases heq : x = .child .outer j
        · rw [heq, ready_outside members outside hj]
          exact if_pos rfl
        · rw [ready_family members hx heq]
          exact if_neg heq
      queue := by
        rw [filter_ready_queue members hj]
        exact List.filter_cons_of_pos hself
      doomed := fun _ _ => Iff.rfl
      alarms := rfl
      deferred := rfl
      log := fun _ _ => .nil
      root := fun hroot => by
        rw [family_root] at hroot
        cases hroot
      outer := .inr ⟨(Regular.ready members outside).outer, rfl⟩ }
  have hreview := hready.review_root_left (family_family j) (family_root j) fun _ => ⟨rfl, rfl⟩
  rw [start_eq]
  exact ⟨hreview.1, .alone hself (TaskId.child_ne_outer _ j) m, fun _ => hreview.2.symm, rfl⟩

end Start

end Beside

end Gathering

end DbLifecycle
