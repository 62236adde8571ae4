import DbLifecycle.Proofs.Group.Turn

/-!
# Rounds of turns

Between two rounds the tasks that gave way are called back, and when nothing can run, time passes.

* `Gathering.earliest_spec`: the next moment at which a task wakes.
* `Regular.exists_alarm`: when nothing can run, a task wakes before any other has taken longer than
  is to be expected.
* `Regular.wait`, `Regular.resume`, `Regular.turnRound`: time passes, and rounds begin.
* **`Regular.step`**, `Regular.start`, `Regular.steps`: a gathering is regular at all times.
-/

namespace DbLifecycle

namespace Gathering

/-! ## Alarms -/

/-- The earliest alarm is one of them, and none is before it. -/
theorem earliest_spec (alarms : List (Nat × TaskId)) :
    match earliest alarms with
    | none => alarms = []
    | some t => (∃ x, (t, x) ∈ alarms) ∧ ∀ u x, (u, x) ∈ alarms → t ≤ u := by
  induction alarms with
  | nil => rfl
  | cons a alarms ih =>
    rw [earliest]
    cases hrest : earliest alarms with
    | none =>
      rw [hrest] at ih
      subst ih
      refine ⟨⟨a.2, List.mem_cons_self⟩, fun u x hx => ?_⟩
      cases List.mem_singleton.mp hx
      exact Nat.le_refl u
    | some t =>
      rw [hrest] at ih
      obtain ⟨⟨y, hy⟩, hleast⟩ := ih
      dsimp only
      refine ⟨?_, fun u x hx => ?_⟩
      · rcases Nat.le_total a.1 t with hle | hle
        · rw [Nat.min_eq_left hle]
          exact ⟨a.2, List.mem_cons_self⟩
        · rw [Nat.min_eq_right hle]
          exact ⟨y, List.mem_cons_of_mem _ hy⟩
      · rcases List.mem_cons.mp hx with rfl | hx
        · exact Nat.min_le_left _ _
        · exact Nat.le_trans (Nat.min_le_right _ _) (hleast u x hx)

/-- Some tasks are called, one after another. -/
theorem foldl_wake {alarms : List (Nat × TaskId)} (g : Gathering)
    (h : ∀ a ∈ alarms, a.2 ≠ .root) : alarms.foldl (fun g a => g.wake a.2) g =
      { g with queue := (alarms.map Prod.snd).foldl enqueue g.queue } := by
  induction alarms generalizing g with
  | nil => rfl
  | cons a alarms ih =>
    rw [List.foldl_cons, wake_of_ne_root g (h a List.mem_cons_self),
      ih _ fun b hb => h b (List.mem_cons_of_mem _ hb)]
    rfl

/-- Calling tasks changes none of them, nor the records. -/
theorem foldl_wake_same (alarms : List (Nat × TaskId)) (g : Gathering) :
    (alarms.foldl (fun g a => g.wake a.2) g).tasks = g.tasks ∧
    (alarms.foldl (fun g a => g.wake a.2) g).doomed = g.doomed ∧
    (alarms.foldl (fun g a => g.wake a.2) g).returned = g.returned ∧
    (alarms.foldl (fun g a => g.wake a.2) g).entries = g.entries ∧
    (alarms.foldl (fun g a => g.wake a.2) g).later = g.later := by
  induction alarms generalizing g with
  | nil => exact ⟨rfl, rfl, rfl, rfl, rfl⟩
  | cons a alarms ih =>
    have hrest := ih (g.wake a.2)
    rw [wake_tasks, wake_doomed, wake_returned, wake_later, wake_entries] at hrest
    exact hrest

/-- The tasks that are due at a time. -/
def due (g : Gathering) (t : Nat) : List TaskId := (g.alarms.filter (·.1 ≤ t)).map Prod.snd

/-- A later time, at which the tasks that are due have been called. -/
def waited (g : Gathering) (t : Nat) : Gathering := { g with
  now := t
  ran := 0
  queue := (g.due t).foldl enqueue g.queue
  alarms := g.alarms.filter (t < ·.1) }

theorem wait_eq {g : Gathering} {t : Nat} (hnext : earliest g.alarms = some t)
    (hroot : ∀ a ∈ g.alarms, a.2 ≠ .root) : g.wait = g.waited t := by
  unfold wait
  rw [hnext]
  exact foldl_wake _ fun a ha => hroot a (List.mem_filter.mp ha).1

theorem mem_due {g : Gathering} {t : Nat} {x : TaskId} :
    x ∈ g.due t ↔ ∃ u, (u, x) ∈ g.alarms ∧ u ≤ t := by
  simp [due]

theorem mem_alarms_waited {g : Gathering} {t u : Nat} {x : TaskId} :
    (u, x) ∈ (g.waited t).alarms ↔ (u, x) ∈ g.alarms ∧ t < u := by
  simp [waited]

/-- Nothing can run, and nothing is to be called back. -/
structure AtRest (g : Gathering) : Prop where
  queue : g.queue = []
  called : g.called = false
  deferred : g.deferred = []

theorem called_resume {g : Gathering} (h : g.called = true) (id : TaskId) :
    (g.resume id).called = true := by
  unfold resume
  split
  · rw [wake_eq]
    simp [h]
  · dsimp only
    split
    · rw [wake_eq]
      simp [set, h]
    · exact h
  · exact h

/-- When nothing can run, those that are due have their turn next. -/
theorem AtRest.mem_queue_waited {g : Gathering} (h : g.AtRest) {t : Nat} {x : TaskId} :
    x ∈ (g.waited t).queue ↔ ∃ u, (u, x) ∈ g.alarms ∧ u ≤ t := by
  show x ∈ (g.due t).foldl enqueue g.queue ↔ _
  rw [mem_foldl_enqueue, h.queue, mem_due]
  simp

/-- The owner of the outermost group stays called. -/
theorem called_resumeAll {g : Gathering} (h : g.called = true) (ids : List TaskId) :
    (ids.foldl resume g).called = true := by
  induction ids generalizing g with
  | nil => exact h
  | cons id ids ih => exact ih (called_resume h id)

end Gathering

namespace Regular

variable {plan : Plan} {extra : List TaskId} {g : Gathering} {id x : TaskId} {t : Nat} {m : Member}

/-! ## Time -/

theorem not_queued (hrest : g.AtRest) (extra : List TaskId) (x : TaskId) :
    ¬ (g.view extra x).queued := by
  rintro (hmem | ⟨-, hcalled⟩)
  · rw [hrest.queue] at hmem
    cases hmem
  · rw [hrest.called] at hcalled
    cases hcalled

/-- The owner of a group that waits when nothing can run knows of no failure and no result. -/
theorem crew_of_atRest (h : Regular plan none [] g) (hrest : g.AtRest) {crew : Crew}
    {ending : Ending} (hplan : plan x = some (t, m)) (htask : g.tasks x = .waiting crew ending) :
    crew.running ≠ [] ∧ (∀ e, ¬ crew.Failed e) ∧
      ∃ ds ms, m = .grouped ds ms ending ∧ crew.Fits (t + ds.sum) ms g.now := by
  obtain ⟨ds, ms, hm, -, -, hcrew, hsize, hqueued, haside, -⟩ := (h.fit hplan).of_waiting htask
  have hidle : ¬ (crew.results ≠ [] ∨ crew.watched = false) := fun hh =>
    not_queued hrest [] x (hqueued hh)
  have hresults : crew.results = [] := by
    by_contra hne
    exact hidle (.inl hne)
  have haside' : crew.aside = [] := by
    have hzero : (g.view [] x).deferred = 0 := by simp [Gathering.view, hrest.deferred]
    rw [hzero] at haside
    exact List.length_eq_zero_iff.mp (Nat.le_zero.mp haside)
  have hrunning : crew.running ≠ [] := fun hnil => hsize (by
    simp [Crew.size, hnil, hresults, haside'])
  refine ⟨hrunning, fun e he => ?_, ds, ms, hm, hcrew⟩
  rcases he with he | ⟨-, he | he⟩
  · -- its tasks would be cancelled, and so in the queue
    obtain ⟨i, hi⟩ := List.exists_mem_of_ne_nil _ hrunning
    have hdoomed := (h.doomed_iff htask i hi).mpr (by rw [he]; exact Option.some_ne_none e)
    have hmem := h.mem_queue_of_doomed hdoomed (h.running x i (by rw [htask]; exact hi))
    rw [hrest.queue] at hmem
    cases hmem
  · rw [hresults] at he
    cases he
  · rw [haside'] at he
    cases he

/-- **When nothing can run, a task wakes** before any task has taken longer than is to be
expected. -/
theorem exists_alarm (h : Regular plan none [] g) (hrest : g.AtRest)
    (hplan : plan x = some (t, m)) (halive : (g.tasks x).isAlive = true) :
    ∃ u y, (u, y) ∈ g.alarms ∧ u ≤ t + m.duration := by
  -- the task of a group that takes longest, or fails first, is a smaller operation
  induction hn : sizeOf m using Nat.strongRecOn generalizing x t m with
  | _ n ih =>
  subst hn
  have hnot := not_queued hrest [] x
  cases hfits : h.fit hplan with
  | fresh _ _ _ hqueued => exact absurd hqueued hnot
  | @asleep done rest d hdelays _ _ _ _ hwakes =>
    have hle := Fits.sum_le_duration hdelays
    exact ⟨_, x, hwakes.resolve_right hnot, by omega⟩
  | yielded _ _ _ _ hqueued =>
    have hdeferred := hqueued.resolve_left hnot
    simp [Gathering.view, hrest.deferred] at hdeferred
  | @waiting _ _ ending crew _ htask =>
    obtain ⟨hrunning, hfailed, ds, ms, rfl, hcrew⟩ := h.crew_of_atRest hrest hplan htask
    have hchild : ∀ {i m'}, ms[i]? = some m' → i ∈ crew.running →
        ∃ u y, (u, y) ∈ g.alarms ∧ u ≤ t + ds.sum + m'.duration := fun {i m'} hi hmem => by
      have hplan' : plan (x.child i) = some (t + ds.sum, m') := h.planned_child hplan hi
      have hsize : sizeOf m' < sizeOf (Member.grouped ds ms ending) :=
        Member.sizeOf_lt_of_mem_children (List.mem_of_getElem? hi)
      exact ih _ hsize hplan' (h.running x i (by
        rw [show g.tasks x = _ from htask]; exact hmem)) rfl
    have hduration : (Member.grouped ds ms ending).duration =
        ds.sum + Member.groupDuration ms := Member.duration_eq _
    rw [hduration, ← Nat.add_assoc]
    cases hany : Member.anyFails ms with
    | true =>
      obtain ⟨m', hm', hfails, hfirst⟩ := Member.exists_fails_of_anyFails hany
      obtain ⟨i, hi⟩ := List.mem_iff_getElem?.mp hm'
      have hmem : i ∈ crew.running := by
        by_contra hgone
        rcases hcrew.gone i m' hi hgone with ⟨e, he⟩ | ⟨hnot', -⟩
        · exact hfailed e he
        · rw [hfails] at hnot'
          cases hnot'
      rw [← hfirst]
      exact hchild hi hmem
    | false =>
      obtain ⟨i, hmem⟩ := List.exists_mem_of_ne_nil _ hrunning
      have halive' := h.running x i (by rw [show g.tasks x = _ from htask]; exact hmem)
      obtain ⟨⟨t', m'⟩, hplan'⟩ := Option.isSome_iff_exists.mp (h.planned _ halive')
      obtain ⟨t₀, m₀, hx, hm', -⟩ := h.plan_of_child hplan'
      rw [hplan] at hx
      cases hx
      obtain ⟨u, y, hu, hle⟩ := hchild hm' hmem
      have hslow : m'.duration ≤ Member.slowest ms :=
        Member.duration_le_slowest (List.mem_of_getElem? hm')
      rw [Member.groupDuration_of_not_anyFails hany]
      exact ⟨u, y, hu, by omega⟩
  | ended htask =>
    rw [show g.tasks x = .ended from htask] at halive
    cases halive

/-- An alarm is that of a task that sleeps, and is not past. -/
theorem alarm_spec (h : Regular plan none extra g) {u : Nat} (hu : (u, x) ∈ g.alarms) :
    g.now ≤ u ∧ (g.tasks x).isAlive = true ∧ x ≠ .root ∧ ∃ t m, plan x = some (t, m) := by
  obtain ⟨⟨t, m⟩, hplan⟩ := Option.isSome_iff_exists.mp (h.alarms u x hu)
  cases h.fit hplan with
  | @asleep done rest d _ htask _ hnow halarm =>
    have htask' : g.tasks x = .asleep (m.withDelays rest) := htask
    have halive : (g.tasks x).isAlive = true := by rw [htask']; rfl
    refine ⟨?_, halive, h.ne_root halive (by rw [htask']; rfl), t, m, hplan⟩
    rw [halarm u hu]
    exact hnow
  | fresh _ _ _ _ halarm | yielded _ _ _ _ _ halarm | waiting _ _ _ _ _ _ _ _ halarm
  | ended _ _ halarm => exact absurd hu (halarm u)

/-- Time passes, but not beyond any alarm: all tasks are where they were, and some are called. -/
theorem waited_fits (h : Regular plan none [] g) (hrest : g.AtRest) {u : Nat} (hpast : g.now ≤ u)
    (hleast : ∀ v y, (v, y) ∈ g.alarms → u ≤ v) (hplan : plan x = some (t, m)) :
    Fits x t m ((g.waited u).view [] x) := by
  have hnot := not_queued hrest [] x
  have hearlier : ∀ {v}, (v, x) ∈ (g.waited u).alarms → (v, x) ∈ g.alarms := fun hv =>
    (Gathering.mem_alarms_waited.mp hv).1
  cases h.fit hplan with
  | fresh _ _ _ hqueued => exact absurd hqueued hnot
  | @asleep done rest d hdelays htask hlog hnow halarm hwakes hqueued =>
    have halarm' := hwakes.resolve_right hnot
    have hwake : u ≤ t + (done.sum + d) := hleast _ _ halarm'
    refine .asleep hdelays htask hlog hwake (fun v hv => halarm v (hearlier hv)) ?_ ?_
    · rcases Nat.lt_or_eq_of_le hwake with hlt | heq
      · exact .inl (Gathering.mem_alarms_waited.mpr ⟨halarm', hlt⟩)
      · exact .inr (.inl (hrest.mem_queue_waited.mpr ⟨_, halarm', Nat.le_of_eq heq.symm⟩))
    · rintro (hmem | ⟨-, hcalled⟩)
      · obtain ⟨v, hv, hle⟩ := hrest.mem_queue_waited.mp hmem
        have hvw := halarm v hv
        refine .inr ⟨show u = _ by omega, fun w hw => ?_⟩
        obtain ⟨hw, hlt⟩ := Gathering.mem_alarms_waited.mp hw
        have hww := halarm w hw
        omega
      · have hfalse := hrest.called
        rw [show g.called = true from hcalled] at hfalse
        cases hfalse
  | yielded _ _ _ _ hqueued =>
    have hdeferred := hqueued.resolve_left hnot
    simp [Gathering.view, hrest.deferred] at hdeferred
  | waiting hm htask hlog _ hcrew hsize hqueued haside halarm =>
    have halive : (g.tasks x).isAlive = true := by
      rw [show g.tasks x = _ from htask]
      rfl
    obtain ⟨v, y, hv, hle⟩ := h.exists_alarm hrest hplan halive
    exact .waiting hm htask hlog (Nat.le_trans (hleast v y hv) hle) (hcrew.mono hpast) hsize
      (fun hh => absurd (hqueued hh) hnot) haside fun v hv => halarm v (hearlier hv)
  | ended htask hlog halarm => exact .ended htask hlog fun v hv => halarm v (hearlier hv)

/-- Time passes until the next task wakes. -/
theorem wait (h : Regular plan none [] g) (hrest : g.AtRest) : Regular plan none [] g.wait := by
  have hspec := Gathering.earliest_spec g.alarms
  cases hnext : Gathering.earliest g.alarms with
  | none =>
    unfold Gathering.wait
    rw [hnext]
    exact h
  | some u =>
    rw [hnext] at hspec
    obtain ⟨⟨y, hy⟩, hleast⟩ := hspec
    rw [Gathering.wait_eq hnext fun a ha => (h.alarm_spec ha).2.2.1]
    exact
    { h with
      alarms := fun v x hv => h.alarms v x (Gathering.mem_alarms_waited.mp hv).1
      fits := fun x t m _ hplan => h.waited_fits hrest (h.alarm_spec hy).1 hleast hplan
      doomed := fun x hx halive => by
        have hmem := h.mem_queue_of_doomed hx halive
        rw [hrest.queue] at hmem
        cases hmem
      queued := fun x hx => by
        obtain ⟨v, hv, -⟩ := hrest.mem_queue_waited.mp hx
        exact (h.alarm_spec hv).2.1
      nodup := Gathering.nodup_foldl_enqueue h.nodup _
      root := by
        refine ⟨fun hmem => ?_, h.root.2⟩
        obtain ⟨v, hv, -⟩ := hrest.mem_queue_waited.mp hmem
        exact (h.alarm_spec hv).2.2.1 rfl }

/-! ## Rounds -/

end Regular

namespace Crew

variable {c : Crew}

theorem callBack_running : c.callBack.running = c.running := by
  unfold callBack
  split <;> rfl

theorem callBack_failure : c.callBack.failure = c.failure := by
  unfold callBack
  split <;> rfl

theorem failed_callBack {e : Ending} : c.callBack.Failed e ↔ c.Failed e := by
  unfold callBack
  split
  · rfl
  · rename_i r rest haside
    simp only [Failed, haside, List.mem_append, List.mem_cons, List.not_mem_nil, or_false]
    tauto

theorem size_callBack : c.callBack.size = c.size := by
  unfold callBack
  split
  · rfl
  · rename_i r rest haside
    simp only [size, haside, List.length_append, List.length_cons, List.length_nil]
    omega

theorem Fits.callBack {begun now : Nat} {ms : List Member} (h : c.Fits begun ms now) :
    c.callBack.Fits begun ms now where
  nodup := by rw [callBack_running]; exact h.nodup
  size_le := by rw [size_callBack]; exact h.size_le
  begun_le := h.begun_le
  gone i m hi hnot := by
    rw [callBack_running] at hnot
    exact (h.gone i m hi hnot).imp_left fun ⟨e, he⟩ => ⟨e, failed_callBack.mpr he⟩
  failed e he := h.failed e (failed_callBack.mp he)

theorem length_aside_callBack : c.callBack.aside.length = c.aside.length - 1 := by
  unfold callBack
  split <;> simp [*]

end Crew

namespace Regular

variable {plan : Plan} {extra : List TaskId} {g : Gathering} {id x : TaskId} {t : Nat} {m : Member}

/-- A task that is called back, and neither gave way nor waits. -/
theorem of_not_deferred (h : Regular plan none (id :: extra) g)
    (htask : (∀ m, g.tasks id ≠ .yielded m) ∧ (g.tasks id).isWaiting = false) :
    Regular plan none extra g :=
  { h with
    fits := fun x t m hx hplan => by
      have hfits := h.fits x t m hx hplan
      by_cases hid : x = id
      · subst hid
        cases hfits with
        | fresh h₁ h₂ h₃ h₄ h₅ => exact .fresh h₁ h₂ h₃ h₄ h₅
        | asleep h₁ h₂ h₃ h₄ h₅ h₆ h₇ => exact .asleep h₁ h₂ h₃ h₄ h₅ h₆ h₇
        | yielded _ hyielded => exact absurd hyielded (htask.1 _)
        | waiting _ hwaiting =>
          rw [show g.tasks x = _ from hwaiting] at htask
          cases htask.2
        | ended h₁ h₂ h₃ => exact .ended h₁ h₂ h₃
      · rwa [view_cons_of_ne g extra hid] at hfits }

/-- A task that gave way with delays before it is called back. -/
theorem resume_yielded (h : Regular plan none (id :: extra) g) (htask : g.tasks id = .yielded m) :
    Regular plan none extra (g.wake id) := by
  have halive : (g.tasks id).isAlive = true := by rw [htask]; rfl
  have hroot : id ≠ .root := h.ne_root halive (by rw [htask]; rfl)
  refine ((h.activate id).dismiss.wake halive).settle (fun t m' hplan => ?_)
    (fun _ _ => g.mem_queue_wake.mpr (.inr ⟨rfl, hroot⟩)) ?_
  · cases h.fit hplan with
    | yielded hdelays htask' hlog' hnow _ halarm =>
      refine .yielded hdelays (.trans (by simp [Gathering.view]) htask')
        (.trans (by simp [Gathering.view]) hlog') (.trans (by simp [Gathering.view]) hnow)
        (.inl (g.queued_wake extra id)) (by simpa [Gathering.view] using halarm)
    | fresh htask' | asleep _ htask' | waiting _ htask' | ended htask' =>
      rw [show (g.view (id :: extra) id).task = _ from htask] at htask'
      cases htask'
  · intro crew ending hwaiting
    rw [g.wake_tasks, htask] at hwaiting
    cases hwaiting

/-- An owner that set a result aside is called back. -/
theorem resume_waiting (h : Regular plan none (id :: extra) g) {crew : Crew} {ending : Ending}
    (htask : g.tasks id = .waiting crew ending) : Regular plan none extra
      (if crew.watched then (g.set id (.waiting crew.callBack ending)).wake id
        else g.set id (.waiting crew.callBack ending)) := by
  have halive : (g.tasks id).isAlive = true := by rw [htask]; rfl
  obtain ⟨⟨t, m⟩, hplan⟩ := Option.isSome_iff_exists.mp (h.planned id halive)
  obtain ⟨ds, ms, rfl, hlog, hnow, hcrew, hsize, hqueued, haside, halarm⟩ :=
    (h.fit hplan).of_waiting htask
  have hset := g.set_self id (.waiting crew.callBack ending)
  have hsetRegular := (h.activate id).dismiss.set_waiting htask crew.callBack_running
  have hdoomed := h.doomed_iff htask
  have haside' : crew.callBack.aside.length ≤ (extra ++ g.deferred).count id := by
    have hcount : (g.view (id :: extra) id).deferred = (extra ++ g.deferred).count id + 1 :=
      List.count_cons_self
    rw [Crew.length_aside_callBack]
    omega
  have hlive : id ∈ g.doomed → id ∈ g.queue := fun hmem =>
    h.mem_queue_of_doomed hmem halive
  split
  · have hcalled := hsetRegular.wake (by rw [hset]; rfl)
    refine hcalled.settle_waiting hplan ?_ ?_ ?_ ?_ (by rwa [Crew.size_callBack])
      (fun _ => Gathering.queued_wake _ extra id) ?_ ?_ (fun hmem => ?_) ?_
    · rw [Gathering.wake_tasks]
      exact hset
    · rw [Gathering.wake_log]
      exact hlog
    · rw [Gathering.wake_now]
      exact hnow
    · rw [Gathering.wake_now]
      exact hcrew.callBack
    · rw [Gathering.wake_deferred]
      exact haside'
    · rw [Gathering.wake_alarms]
      exact halarm
    · rw [Gathering.wake_doomed] at hmem
      exact (Gathering.mem_queue_wake _).mpr (.inl (hlive hmem))
    · rw [Gathering.wake_doomed, Crew.callBack_running, Crew.callBack_failure]
      exact hdoomed
  · rename_i hwatched
    refine hsetRegular.settle_waiting hplan hset hlog hnow hcrew.callBack
      (by rwa [Crew.size_callBack]) (fun _ => ?_) haside' halarm hlive ?_
    · exact hqueued (.inr (by simpa using hwatched))
    · rw [Crew.callBack_running, Crew.callBack_failure]
      exact hdoomed

/-- A task that gave way is called back. -/
theorem resume (h : Regular plan none (id :: extra) g) : Regular plan none extra (g.resume id) := by
  unfold Gathering.resume
  cases htask : g.tasks id with
  | yielded m => exact h.resume_yielded htask
  | waiting crew ending => exact h.resume_waiting htask
  | fresh | asleep | ended =>
    refine h.of_not_deferred ⟨fun m' => ?_, ?_⟩ <;> rw [htask]
    · exact nofun
    · rfl

theorem resumeAll {ids : List TaskId} (h : Regular plan none ids g) :
    Regular plan none [] (ids.foldl Gathering.resume g) := by
  induction ids generalizing g with
  | nil => exact h
  | cons id ids ih => exact ih h.resume

/-- The owner of the outermost group looks at its results if it is called. -/
theorem review_root (h : Regular plan none [] g) :
    Regular plan none [] ({ g with called := false, left := stamina }.review .root) := by
  have hidle : Regular plan (some .root) [] { g with called := false, left := stamina } :=
    { h.activate .root with
      fits := fun x t m hx hplan => by
        have hview : ({ g with called := false, left := stamina } : Gathering).view [] x =
            g.view [] x := by
          have hne : x ≠ .root := fun heq => hx (congrArg some heq.symm)
          exact View.ext rfl rfl (propext (by simp [Gathering.view, hne])) rfl rfl rfl rfl
        rw [hview]
        exact h.fit hplan }
  obtain ⟨ms, hplan⟩ := h.rootPlan
  cases htask : g.tasks .root with
  | waiting crew ending =>
    obtain ⟨ds, ms', hm, hlog, hnow, hcrew, -, -, haside, halarm⟩ :=
      (h.fit hplan).of_waiting htask
    cases hm
    exact hidle.review hplan htask hlog hnow hcrew haside halarm h.root.1 h.root.2.1
      (h.doomed_iff htask)
  | fresh | asleep | yielded | ended =>
    unfold Gathering.review
    rw [show ({ g with called := false, left := stamina } : Gathering).tasks .root = _ from htask]
    refine hidle.settle (fun t m hplan' => ?_) (fun hmem => absurd hmem h.root.2.1) ?_
    · cases h.fit hplan' with
      | ended htask' hlog halarm => exact .ended htask' hlog halarm
      | waiting _ htask' =>
        rw [show (g.view [] .root).task = _ from htask] at htask'
        cases htask'
      | fresh htask' | asleep _ htask' | yielded _ htask' =>
        refine absurd rfl (h.ne_root (x := .root) ?_ ?_) <;>
          rw [show g.tasks .root = _ from htask'] <;> rfl
    · intro crew ending hwaiting
      rw [show ({ g with called := false, left := stamina } : Gathering).tasks .root = _
        from htask] at hwaiting
      cases hwaiting

/-- All tasks that gave way are to be called back. -/
theorem recallAll (h : Regular plan none [] g) :
    Regular plan none g.deferred { g with ran := 0, deferred := [] } :=
  { h with
    fits := fun x t m hx hplan => by
      have hview : ({ g with ran := 0, deferred := [] } : Gathering).view g.deferred x =
          g.view [] x :=
        View.ext rfl rfl rfl rfl rfl (by simp [Gathering.view]) rfl
      rw [hview]
      exact h.fits x t m hx hplan }

/-- A round begins. -/
theorem turnRound (h : Regular plan none [] g) : Regular plan none [] g.turnRound := by
  have hall := h.recallAll.resumeAll
  unfold Gathering.turnRound
  dsimp only
  split
  · exact hall.review_root
  · exact hall

/-! ## Steps -/

/-- **A step** leaves a gathering regular. -/
theorem step (h : Regular plan none [] g) : Regular plan none [] g.step := by
  unfold Gathering.step
  split
  · exact h.turnRound
  · rename_i hround
    split
    · rename_i id rest hqueue
      exact h.run hqueue _
    · rename_i hqueue
      have hidle : g.called = false ∧ g.deferred = [] := by simpa [hqueue] using hround
      exact h.wait ⟨hqueue, hidle.1, hidle.2⟩

theorem steps (h : Regular plan none [] g) (n : Nat) : Regular plan none [] (g.steps n) := by
  induction n generalizing g with
  | zero => exact h
  | succ n ih => exact ih h.step

end Regular

/-! ## The beginning -/

namespace Gathering

/-- The gathering when all tasks have been started, and nothing has been done. -/
def ready (members outside : List Member) : Gathering where
  tasks := spawn (fun x => if x = .root then .waiting (.ofSize members.length) (.ok ())
    else spawn (fun _ => .ended) .outer 0 outside x) .root 0 members
  queue := ((List.range' 0 members.length).map TaskId.root.child).foldl enqueue
    (((List.range' 0 outside.length).map TaskId.outer.child).foldl enqueue [])

theorem start_eq (members outside : List Member) :
    start members outside = (ready members outside).review .root := by
  unfold start
  dsimp only
  rw [startAll_eq, startAll_eq]
  rfl

section Ready

variable (members outside : List Member)

theorem ready_root : (ready members outside).tasks .root =
    .waiting (.ofSize members.length) (.ok ()) :=
  (spawn_of_ne fun i _ => (TaskId.child_ne_root .root (0 + i)).symm).trans (if_pos rfl)

theorem ready_member {i : Nat} {m : Member} (h : members[i]? = some m) :
    (ready members outside).tasks (TaskId.root.child i) = .fresh m := by
  have hspawn : (ready members outside).tasks (TaskId.root.child (0 + i)) = .fresh m := spawn_child h
  rwa [Nat.zero_add] at hspawn

theorem ready_outside {i : Nat} {m : Member} (h : outside[i]? = some m) :
    (ready members outside).tasks (TaskId.outer.child i) = .fresh m := by
  have hspawn : spawn (fun _ => .ended) .outer 0 outside (TaskId.outer.child (0 + i)) = .fresh m :=
    spawn_child h
  rw [Nat.zero_add] at hspawn
  refine (spawn_of_ne fun j _ heq => ?_).trans ((if_neg (TaskId.child_ne_root _ i)).trans hspawn)
  exact TaskId.root_ne_outer (TaskId.child_injective heq).1.symm

/-- A task is one of those that have been started, or has nothing to do. -/
theorem ready_cases (x : TaskId) : x = .root ∨
    (∃ i m, members[i]? = some m ∧ x = TaskId.root.child i) ∨
    (∃ i m, outside[i]? = some m ∧ x = TaskId.outer.child i) ∨
    (ready members outside).tasks x = .ended := by
  by_cases hroot : x = .root
  · exact .inl hroot
  by_cases hmember : ∃ i < members.length, x = TaskId.root.child i
  · obtain ⟨i, hi, rfl⟩ := hmember
    exact .inr (.inl ⟨i, _, List.getElem?_eq_getElem hi, rfl⟩)
  by_cases houtside : ∃ i < outside.length, x = TaskId.outer.child i
  · obtain ⟨i, hi, rfl⟩ := houtside
    exact .inr (.inr (.inl ⟨i, _, List.getElem?_eq_getElem hi, rfl⟩))
  · refine .inr (.inr (.inr ?_))
    refine (spawn_of_ne fun i hi heq => hmember ⟨i, hi, by simpa using heq⟩).trans
      ((if_neg hroot).trans (spawn_of_ne fun i hi heq => houtside ⟨i, hi, by simpa using heq⟩))

theorem mem_ready_queue {x : TaskId} : x ∈ (ready members outside).queue ↔
    (∃ i < outside.length, TaskId.outer.child i = x) ∨
      ∃ i < members.length, TaskId.root.child i = x := by
  simp [ready, mem_foldl_enqueue, List.mem_range']

end Ready

end Gathering

namespace Regular

/-- All tasks have been started, and nothing has been done. -/
theorem ready (members outside : List Member) :
    Regular (plan members outside) (some .root) [] (Gathering.ready members outside) := by
  have hroot := Gathering.ready_root members outside
  have hmember := @Gathering.ready_member members outside
  have houtside := @Gathering.ready_outside members outside
  have hcases := Gathering.ready_cases members outside
  have hqueue := @Gathering.mem_ready_queue members outside
  have hplanMember : ∀ i, plan members outside (TaskId.root.child i) =
      members[i]?.map fun m => (0, m) := fun i => by
    rw [plan_child, plan_root]
    rfl
  have hplanOutside : ∀ i, plan members outside (TaskId.outer.child i) =
      outside[i]?.map fun m => (0, m) := fun i => by
    rw [plan_child, plan_outer]
    rfl
  constructor
  case coherent => exact plan_child members outside
  case planned =>
    intro x hx
    rcases hcases x with rfl | ⟨i, m, hi, rfl⟩ | ⟨i, m, hi, rfl⟩ | hended
    · rfl
    · rw [hplanMember, hi]; rfl
    · rw [hplanOutside, hi]; rfl
    · rw [hended] at hx; cases hx
  case alarms => exact nofun
  case recorded => exact fun _ hne => absurd rfl hne
  case fits =>
    intro x t m hx hplan
    rcases hcases x with rfl | ⟨i, m', hi, rfl⟩ | ⟨i, m', hi, rfl⟩ | hended
    · exact absurd rfl hx
    · rw [hplanMember, hi] at hplan
      cases hplan
      exact .fresh (hmember hi) rfl rfl
        (.inl (hqueue.mpr (.inr ⟨i, (List.getElem?_eq_some_iff.mp hi).1, rfl⟩))) nofun
    · rw [hplanOutside, hi] at hplan
      cases hplan
      exact .fresh (houtside hi) rfl rfl
        (.inl (hqueue.mpr (.inl ⟨i, (List.getElem?_eq_some_iff.mp hi).1, rfl⟩))) nofun
    · exact .ended hended .idle nofun
  case linked =>
    intro x i hx
    rcases hcases (x.child i) with heq | ⟨j, m, hj, heq⟩ | ⟨j, m, hj, heq⟩ | hended
    · exact absurd heq (TaskId.child_ne_root x i)
    · obtain ⟨rfl, rfl⟩ := TaskId.child_injective heq
      exact .inr (.inl ⟨_, _, hroot, List.mem_range.mpr (List.getElem?_eq_some_iff.mp hj).1, .inl rfl⟩)
    · exact .inl (TaskId.child_injective heq).1
    · rw [hended] at hx; cases hx
  case running =>
    intro x i hi
    rcases hcases x with rfl | ⟨j, m, hj, rfl⟩ | ⟨j, m, hj, rfl⟩ | hended
    · rw [hroot] at hi
      rw [hmember (List.getElem?_eq_getElem (List.mem_range.mp hi))]
      rfl
    · rw [hmember hj] at hi; cases hi
    · rw [houtside hj] at hi; cases hi
    · rw [hended] at hi; cases hi
  case doomed => exact nofun
  case queued =>
    intro x hx
    rcases hqueue.mp hx with ⟨i, hi, rfl⟩ | ⟨i, hi, rfl⟩
    · rw [houtside (List.getElem?_eq_getElem hi)]; rfl
    · rw [hmember (List.getElem?_eq_getElem hi)]; rfl
  case nodup =>
    exact Gathering.nodup_foldl_enqueue (Gathering.nodup_foldl_enqueue List.nodup_nil _) _
  case lineage =>
    intro x i htouched
    rcases htouched with hne | hmem
    · exact absurd rfl hne
    · cases hmem
  case outer =>
    rcases hcases .outer with heq | ⟨i, m, hi, heq⟩ | ⟨i, m, hi, heq⟩ | hended
    · exact absurd heq.symm TaskId.root_ne_outer
    · exact absurd heq.symm (TaskId.child_ne_outer _ i)
    · exact absurd heq.symm (TaskId.child_ne_outer _ i)
    · rw [hended]; rfl
  case outside =>
    intro i t m hplan
    rw [hplanOutside] at hplan
    obtain ⟨m', hm', -⟩ := Option.map_eq_some_iff.mp hplan
    refine ⟨nofun, fun hdead => ?_⟩
    rw [houtside hm'] at hdead
    cases hdead
  case rootPlan => exact ⟨members, rfl⟩
  case root =>
    refine ⟨fun hmem => ?_, nofun, rfl⟩
    rcases hqueue.mp hmem with ⟨i, -, heq⟩ | ⟨i, -, heq⟩ <;>
      exact TaskId.child_ne_root _ i heq
  case quiet => exact fun _ => rfl
  case returned => rw [hroot]; rfl

/-- The beginning of a gathering is regular. -/
theorem start (members outside : List Member) :
    Regular (plan members outside) none [] (Gathering.start members outside) := by
  have h := ready members outside
  rw [Gathering.start_eq]
  refine h.review (plan_root members outside) (Gathering.ready_root members outside)
    (fun hne => absurd rfl hne) (Nat.zero_le _) (fits_ofSize 0 members) (Nat.zero_le _) nofun
    h.root.1 h.root.2.1 fun i _ => ?_
  exact ⟨nofun, fun hne => absurd rfl hne⟩

end Regular

end DbLifecycle
