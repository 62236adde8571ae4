import DbLifecycle.Proofs.Group.Regular

/-!
# Turns of tasks

A task that has its turn goes on with its operation, looks at the results of its group, or is
cancelled. Each of them leaves a gathering regular.

* `Crew.take_spec`, `Crew.Fits.take`: the results that an owner takes.
* `Regular.conclude`, `Regular.leave`, `Regular.leave_root`: the end of an operation.
* `Regular.review`, `Regular.sleep`, `Regular.drop`: the turns.
* **`Regular.run`**: a turn of any task.
-/

namespace DbLifecycle

/-! ## Results -/

/-- The first failure is one of the results, and there is one unless all results are good. -/
theorem Result.firstFailure_spec (results : List Result) :
    match Result.firstFailure results with
    | none => ∀ e, some e ∈ results → e.isOk = true
    | some (e, _) => e.isOk = false ∧ some e ∈ results := by
  induction results with
  | nil => simp [firstFailure]
  | cons r results ih =>
    match r with
    | none =>
      rw [firstFailure]
      split at ih <;> simpa using ih
    | some (.ok u) =>
      rw [firstFailure]
      split at ih
      · intro e he
        rcases List.mem_cons.mp he with heq | he
        · cases heq; rfl
        · exact ih e he
      · exact ⟨ih.1, List.mem_cons_of_mem _ ih.2⟩
    | some (.error text) => exact ⟨rfl, List.mem_cons_self⟩
    | some (.panic text) => exact ⟨rfl, List.mem_cons_self⟩

namespace Crew

/-- What comes of a look at the results. -/
theorem take_spec (c : Crew) (n : Nat) :
    (c.take n).1.running = c.running ∧ (c.take n).1.aside = c.aside ∧
    (c.take n).1.results = c.results.drop n ∧
    match (c.take n).2 with
    | some _ => c.failure = none ∧
        ∃ e, (c.take n).1.failure = some e ∧ e.isOk = false ∧ some e ∈ c.results
    | none => (c.take n).1.failure = c.failure ∧
        (c.failure = none → ∀ e, some e ∈ c.results.take n → e.isOk = true) := by
  have hspec := Result.firstFailure_spec (c.results.take n)
  unfold take
  split
  · rename_i e behind hfailure hfirst
    rw [hfirst] at hspec
    exact ⟨rfl, rfl, rfl, hfailure, e, rfl, hspec.1, List.mem_of_mem_take hspec.2⟩
  · rename_i hnot
    refine ⟨rfl, rfl, rfl, rfl, fun hfailure => ?_⟩
    cases hfirst : Result.firstFailure (c.results.take n) with
    | none => rw [hfirst] at hspec; exact hspec
    | some p => exact absurd hfirst (hnot p.1 p.2 hfailure)

section Take

variable {c : Crew} {e : Ending} (n : Nat)

/-- A failure stays before the owner when it looks at the results, or is seen. -/
theorem exists_failed_take (h : c.Failed e) : ∃ e', (c.take n).1.Failed e' := by
  obtain ⟨-, haside, hresults, hcancels⟩ := c.take_spec n
  split at hcancels
  · obtain ⟨-, e', he', -⟩ := hcancels
    exact ⟨e', .inl he'⟩
  · obtain ⟨hsame, hgood⟩ := hcancels
    cases hfailure : c.failure with
    | some e' => exact ⟨e', .inl (hsame.trans hfailure)⟩
    | none =>
      refine ⟨e, .inr ?_⟩
      rw [hresults, haside]
      obtain ⟨hnot, hmem⟩ := h.resolve_left fun hsome => by rw [hfailure] at hsome; cases hsome
      refine ⟨hnot, hmem.imp_left fun hmem => ?_⟩
      rw [← List.take_append_drop n c.results, List.mem_append] at hmem
      refine hmem.resolve_left fun hmem => ?_
      rw [hgood hfailure e hmem] at hnot
      cases hnot

/-- A failure that is before the owner after a look was so before. -/
theorem failed_of_take (h : (c.take n).1.Failed e) : c.Failed e := by
  obtain ⟨-, haside, hresults, hcancels⟩ := c.take_spec n
  rcases h with h | ⟨hnot, hmem⟩
  · split at hcancels
    · obtain ⟨-, e', he', hnot, hmem⟩ := hcancels
      rw [he'] at h
      cases h
      exact .inr ⟨hnot, .inl hmem⟩
    · exact .inl (hcancels.1.symm.trans h)
  · rw [hresults, haside] at hmem
    exact .inr ⟨hnot, hmem.imp_left List.mem_of_mem_drop⟩

/-- A look at the results leaves the tasks of a group as they are to be. -/
theorem Fits.take {begun now : Nat} {ms : List Member} (h : c.Fits begun ms now) :
    (c.take n).1.Fits begun ms now where
  nodup := by rw [(c.take_spec n).1]; exact h.nodup
  size_le := by
    obtain ⟨hrunning, haside, hresults, -⟩ := c.take_spec n
    have := h.size_le
    simp only [size, hrunning, haside, hresults, List.length_drop] at this ⊢
    omega
  begun_le := h.begun_le
  gone i m hi hnot := by
    rw [(c.take_spec n).1] at hnot
    rcases h.gone i m hi hnot with ⟨_, he⟩ | hlate
    · exact .inl (exists_failed_take n he)
    · exact .inr hlate
  failed e he := h.failed e (failed_of_take n he)

end Take

theorem look_running (c : Crew) (n : Nat) : (c.look n).running = c.running := (c.take_spec n).1

theorem look_aside (c : Crew) (n : Nat) : (c.look n).aside = c.aside := (c.take_spec n).2.1

theorem look_results (c : Crew) (n : Nat) : (c.look n).results = c.results.drop n :=
  (c.take_spec n).2.2.1

theorem look_failure (c : Crew) (n : Nat) : (c.look n).failure = (c.take n).1.failure := rfl

theorem look_watched (c : Crew) (n : Nat) : (c.look n).watched = true := rfl

theorem Fits.look {begun now : Nat} {ms : List Member} {c : Crew} (h : c.Fits begun ms now)
    (n : Nat) : (c.look n).Fits begun ms now :=
  let h' := h.take n
  ⟨h'.nodup, h'.size_le, h'.begun_le, h'.gone, h'.failed⟩

section SetAside

variable {c : Crew}

theorem failed_setAside {e : Ending} : c.setAside.Failed e ↔ c.Failed e := by
  unfold setAside
  split
  · rfl
  · rename_i r rest hresults
    simp only [Failed, hresults, List.mem_cons]
    tauto

theorem size_setAside : c.setAside.size = c.size := by
  unfold setAside
  split
  · rfl
  · rename_i r rest hresults
    simp only [size, hresults, List.length_cons]
    omega

theorem Fits.setAside {begun now : Nat} {ms : List Member} (h : c.Fits begun ms now) :
    c.setAside.Fits begun ms now where
  nodup := by unfold Crew.setAside; split <;> exact h.nodup
  size_le := by rw [size_setAside]; exact h.size_le
  begun_le := h.begun_le
  gone i m hi hnot := by
    have hrunning : c.setAside.running = c.running := by unfold Crew.setAside; split <;> rfl
    rw [hrunning] at hnot
    exact (h.gone i m hi hnot).imp_left fun ⟨e, he⟩ => ⟨e, failed_setAside.mpr he⟩
  failed e he := h.failed e (failed_setAside.mp he)

theorem length_aside_setAside : c.setAside.aside.length ≤ c.aside.length + 1 := by
  unfold setAside
  split <;> simp

end SetAside

end Crew

namespace Regular

variable {plan : Plan} {extra : List TaskId} {g : Gathering} {id : TaskId} {t : Nat} {m : Member}

/-! ## The end of an operation -/

/-- An entry of the active task, or of none. -/
theorem record (h : Regular plan (some id) extra g) (halive : (g.tasks id).isAlive = true)
    {es : List Entry} (hothers : ∀ x, x ≠ id → marksOf x es = [])
    (hroot : id = .root → marksOf .root es = []) :
    Regular plan (some id) extra (g.record es) := by
  have hviews : ∀ x, x ≠ id → (g.record es).view extra x = g.view extra x := fun x hx => by
    simp only [Gathering.view, Gathering.record_now, Gathering.record_tasks,
      Gathering.record_queue, Gathering.record_doomed, Gathering.record_alarms,
      Gathering.record_called, Gathering.record_deferred, Gathering.log_record, hothers x hx,
      List.append_nil]
  refine h.change ⟨hviews, by simp, by simpa using h.nodup, by simpa using h.root.1, by simp,
    halive, by simpa using halive, by simp, by simp, ?_, ?_, by simp, ?_⟩
  · rw [Gathering.log_record]
    exact List.subset_append_left _ _
  · rintro rfl
    rw [Gathering.log_record, h.root.2.2, hroot rfl]
    rfl
  · intro hnone
    rw [Gathering.record_returned] at hnone
    rw [Gathering.record_later _ _ hnone]
    exact h.quiet hnone

/-- A mark of the active task. -/
theorem mark (h : Regular plan (some id) extra g) (halive : (g.tasks id).isAlive = true)
    (hroot : id ≠ .root) (what : Mark) : Regular plan (some id) extra (g.mark id what) :=
  h.record halive (fun x hx => by simp [marksOf, Entry.about, hx.symm]) fun heq => absurd heq hroot

/-- The active task comes to the end of its operation. -/
theorem conclude (h : Regular plan (some id) extra g) (hplan : plan id = some (t, m))
    (hroot : id ≠ .root) (halive : (g.tasks id).isAlive = true) (hqueued : id ∉ g.queue)
    (hrunning : (g.tasks id).running = []) (halarm : ∀ u, (u, id) ∉ g.alarms)
    (hnow : g.now = t + m.duration) {e : Ending} (hends : m.EndsWith e)
    (hlog : g.log id ++ [(g.now, .ofEnding e)] = m.story t e) :
    Regular plan none extra (g.conclude id e) := by
  have hlog' : (g.mark id (.ofEnding e)).log id = m.story t e := by
    rw [Gathering.log_mark_self, hlog]
  refine (h.mark halive hroot _).finish hplan hroot (by simpa using halive)
    (by simpa using hqueued) ?_ (by simpa using halarm)
    (fun _ => ?_) (by simp [hrunning]) ?_
  · rw [hlog']
    exact .told hends
  · rw [Gathering.log_mark_self]
    simp
  · exact .inr ⟨e, rfl, hends, by simpa using hnow, hlog'⟩

section Leave

variable {ds : List Nat} {ms : List Member} {ending : Ending} {crew : Crew}

/-- A group that has ended did so in its time, and with the first failure if one of its members
fails. -/
theorem endsWith_of_size (ending : Ending) (hcrew : crew.Fits (t + ds.sum) ms g.now)
    (hsize : crew.size = 0) (hnow : g.now ≤ t + (Member.grouped ds ms ending).duration) :
    g.now = t + (Member.grouped ds ms ending).duration ∧
    match crew.failure with
    | none => Member.anyFails ms = false
    | some e => Member.anyFails ms = true ∧ e.isOk = false ∧
        (Member.grouped ds ms ending).EndsWith e := by
  have hempty : crew.running = [] ∧ crew.results = [] ∧ crew.aside = [] := by
    simp only [Crew.size] at hsize
    refine ⟨?_, ?_, ?_⟩ <;> exact List.length_eq_zero_iff.mp (by omega)
  have hle := hcrew.groupDuration_le hempty.1
  rw [Member.duration_eq] at hnow ⊢
  refine ⟨by simp only [Member.delays, Member.children] at hnow ⊢; omega, ?_⟩
  cases hfailure : crew.failure with
  | none =>
    refine hcrew.not_anyFails hempty.1 fun e he => ?_
    rcases he with he | ⟨-, he | he⟩
    · rw [hfailure] at he; cases he
    · rw [hempty.2.1] at he; cases he
    · rw [hempty.2.2] at he; cases he
  | some e =>
    obtain ⟨hany, hnot⟩ := hcrew.anyFails_of_failed (.inl hfailure)
    obtain ⟨-, m, hmem, hfails, hfirst, hends⟩ := hcrew.failed e (.inl hfailure)
    exact ⟨hany, hnot, .stopped hmem hfails hfirst hends ds ending⟩

theorem endsWith_getD (ending : Ending) (hcrew : crew.Fits (t + ds.sum) ms g.now)
    (hsize : crew.size = 0) (hnow : g.now ≤ t + (Member.grouped ds ms ending).duration) :
    g.now = t + (Member.grouped ds ms ending).duration ∧
    (Member.grouped ds ms ending).EndsWith (crew.failure.getD ending) := by
  obtain ⟨htime, hfailure⟩ := endsWith_of_size ending hcrew hsize hnow
  refine ⟨htime, ?_⟩
  split at hfailure
  · rename_i hnone
    rw [hnone]
    exact .joined hfailure ds ending
  · rename_i e hsome
    rw [hsome]
    exact hfailure.2.2

/-- The group of the active task has ended. -/
theorem leave (h : Regular plan (some id) extra g)
    (hplan : plan id = some (t, .grouped ds ms ending)) (hroot : id ≠ .root)
    (halive : (g.tasks id).isAlive = true) (hqueued : id ∉ g.queue)
    (hrunning : (g.tasks id).running = [])
    (halarm : ∀ u, (u, id) ∉ g.alarms) (hlog : g.log id = Member.opening t ds)
    (hnow : g.now ≤ t + (Member.grouped ds ms ending).duration)
    (hcrew : crew.Fits (t + ds.sum) ms g.now) (hsize : crew.size = 0) :
    Regular plan none extra (g.leave id ending (crew.failure.getD (.ok ()))) := by
  obtain ⟨htime, hfailure⟩ := endsWith_of_size ending hcrew hsize hnow
  unfold Gathering.leave
  rw [if_neg hroot]
  split at hfailure
  · rename_i hnone
    rw [hnone]
    refine (h.mark halive hroot .groupOk).conclude hplan hroot (by simpa using halive)
      (by simpa using hqueued) (by simpa using hrunning) (by simpa using halarm)
      (by simpa using htime) (.joined hfailure ds ending) ?_
    rw [Gathering.log_mark_self, hlog, htime]
    simp [Member.story, Member.closing, Member.delays, hfailure, htime]
  · rename_i e hsome
    obtain ⟨hany, hnot, hends⟩ := hfailure
    have hlog' : (g.mark id (.ofStop e)).log id = (Member.grouped ds ms ending).story t e := by
      rw [Gathering.log_mark_self, hlog, htime]
      simp [Member.story, Member.closing, Member.delays, hany]
    have hstop : Regular plan none extra ((g.mark id (.ofStop e)).finish id (some e)) := by
      refine (h.mark halive hroot _).finish hplan hroot (by simpa using halive)
        (by simpa using hqueued) ?_
        (by simpa using halarm) (fun _ => ?_)
        (by simp [hrunning]) ?_
      · rw [hlog']
        exact .told hends
      · rw [Gathering.log_mark_self]
        simp
      · exact .inr ⟨e, rfl, hends, by simpa using htime, hlog'⟩
    rw [hsome]
    cases e with
    | ok u => cases hnot
    | error text => exact hstop
    | panic text => exact hstop

/-- The outermost group has ended. -/
theorem leave_root (h : Regular plan (some .root) extra g)
    (hplan : plan .root = some (t, .grouped ds ms (.ok ())))
    (halive : (g.tasks .root).isAlive = true) (hrunning : (g.tasks .root).running = [])
    (halarm : ∀ u, (u, TaskId.root) ∉ g.alarms)
    (hnow : g.now ≤ t + (Member.grouped ds ms (.ok ())).duration)
    (hcrew : crew.Fits (t + ds.sum) ms g.now) (hsize : crew.size = 0) :
    Regular plan none extra (g.leave .root (.ok ()) (crew.failure.getD (.ok ()))) := by
  obtain ⟨htime, hends⟩ := endsWith_getD (.ok ()) hcrew hsize hnow
  have hreturned : g.returned = none := h.root_isAlive.mp halive
  unfold Gathering.leave
  rw [if_pos rfl]
  set g' : Gathering := { g.set .root .ended with
    returned := some (g.now, crew.failure.getD (.ok ())) } with hg'
  have hself : g'.tasks .root = .ended := g.set_self .root .ended
  have hother : ∀ x, x ≠ .root → g'.tasks x = g.tasks x := fun x hx => if_neg hx
  have hlog : ∀ x, g'.log x = g.log x := Gathering.log_return hreturned (h.quiet hreturned)
  -- nobody waits for the owner of the outermost group, and all its tasks have ended
  have hchildren := h.children_ended halive hrunning
  constructor
  case coherent => exact h.coherent
  case planned =>
    intro x hx
    by_cases hroot : x = .root
    · rw [hroot, hself] at hx
      cases hx
    · rw [hother x hroot] at hx
      exact h.planned x hx
  case alarms => exact h.alarms
  case recorded =>
    intro x hx
    exact h.recorded x (hlog x ▸ hx)
  case fits =>
    intro x t' m' _ hplan'
    by_cases hroot : x = .root
    · subst hroot
      refine .ended hself ?_ halarm
      rw [show (g'.view extra .root).log = [] from (hlog .root).trans h.root.2.2]
      exact .idle
    · have hview : g'.view extra x = g.view extra x :=
        View.ext rfl (hother x hroot) rfl rfl rfl rfl (hlog x)
      rw [hview]
      exact h.fits x t' m' (fun heq => hroot (Option.some.inj heq).symm) hplan'
  case linked =>
    intro x i hx
    rw [hother _ (TaskId.child_ne_root x i)] at hx
    by_cases hroot : x = .root
    · rw [hroot, hchildren i] at hx
      cases hx
    · have hlinked := h.linked x i hx
      unfold Gathering.Linked Gathering.Cancelled at hlinked ⊢
      rw [hother x hroot, hlog]
      refine hlinked.imp_right fun hlinked => hlinked.imp_left ?_
      rintro ⟨crew, ending, htask, hi, hdoomed⟩
      exact ⟨crew, ending, htask, hi, .inr (hdoomed.resolve_left fun heq =>
        hroot (Option.some.inj heq).symm)⟩
  case running =>
    intro x i hi
    rw [hother _ (TaskId.child_ne_root x i)]
    by_cases hroot : x = .root
    · rw [hroot, hself] at hi
      cases hi
    · rw [hother x hroot] at hi
      exact h.running x i hi
  case doomed =>
    intro x hx hxalive
    by_cases hroot : x = .root
    · exact absurd (hroot ▸ hx) h.root.2.1
    · rw [hother x hroot] at hxalive
      exact .inr ((h.doomed x hx hxalive).resolve_left fun heq => hroot (Option.some.inj heq).symm)
  case queued =>
    intro x hx
    rw [hother x fun heq => h.root.1 (heq ▸ hx)]
    exact h.queued x hx
  case nodup => exact h.nodup
  case lineage =>
    intro x i htouched
    rw [hlog] at htouched
    by_cases hroot : x = .root
    · exact .inr (.inl hroot)
    · rw [hother x hroot, hlog]
      exact h.lineage x i htouched
  case outer => rw [hother _ TaskId.root_ne_outer.symm]; exact h.outer
  case outside =>
    intro i t' m' hplan'
    rw [hother _ (TaskId.child_ne_root _ i), hlog]
    exact h.outside i t' m' hplan'
  case rootPlan => exact h.rootPlan
  case root => rw [hlog]; exact h.root
  case quiet => exact nofun
  case returned => exact ⟨by rw [hself]; rfl, t, _, hplan, htime, hends⟩

end Leave

/-! ## Looking at results -/

section Review

variable {ds : List Nat} {ms : List Member} {ending : Ending} {crew : Crew}

/-- The active task waits for its group again. -/
theorem settle_waiting (h : Regular plan (some id) extra g)
    (hplan : plan id = some (t, .grouped ds ms ending)) (htask : g.tasks id = .waiting crew ending)
    (hlog : id ≠ .root → g.log id = Member.opening t ds)
    (hnow : g.now ≤ t + (Member.grouped ds ms ending).duration)
    (hcrew : crew.Fits (t + ds.sum) ms g.now) (hsize : crew.size ≠ 0)
    (hqueued : crew.results ≠ [] ∨ crew.watched = false → (g.view extra id).queued)
    (haside : crew.aside.length ≤ (extra ++ g.deferred).count id)
    (halarm : ∀ u, (u, id) ∉ g.alarms) (hdoom : id ∈ g.doomed → id ∈ g.queue)
    (hdoomed : ∀ i ∈ crew.running, (id.child i ∈ g.doomed ↔ crew.failure ≠ none)) :
    Regular plan none extra g := by
  refine h.settle (fun t' m' hplan' => ?_) (fun hmem _ => hdoom hmem) ?_
  · rw [hplan] at hplan'
    cases hplan'
    exact .waiting rfl htask hlog hnow hcrew hsize hqueued haside halarm
  · intro crew' ending' htask'
    rw [htask] at htask'
    cases htask'
    exact hdoomed

/-- The active task, which waits for its group, changes what it knows of it. -/
theorem set_waiting (h : Regular plan (some id) extra g) (htask : g.tasks id = .waiting crew ending)
    {crew' : Crew} (hrunning : crew'.running = crew.running) :
    Regular plan (some id) extra (g.set id (.waiting crew' ending)) := by
  refine h.change ⟨fun x hx => ?_, fun _ _ => Iff.rfl, h.nodup, h.root.1, Iff.rfl,
    by rw [htask]; rfl, by rw [g.set_self]; rfl, by rw [g.set_self, htask]; exact hrunning,
    fun _ => by rw [g.set_self]; rfl, List.Subset.refl _, ?_, rfl, h.quiet⟩
  · exact View.ext rfl (g.set_of_ne hx _) rfl rfl rfl rfl rfl
  · rintro rfl
    exact h.root.2.2

/-- A first failure cancels the tasks that have not ended, and no other result does. -/
theorem reaction (h : Regular plan (some id) extra g) (htask : g.tasks id = .waiting crew ending)
    (hnot : id ∉ g.doomed)
    (hdoomed : ∀ i ∈ crew.running, (id.child i ∈ g.doomed ↔ crew.failure ≠ none)) (n : Nat) :
    Regular plan (some id) extra (g.reaction id (crew.take n)) ∧
    (id ∉ g.queue → id ∉ (g.reaction id (crew.take n)).queue) ∧
    id ∉ (g.reaction id (crew.take n)).doomed ∧
    ∀ i ∈ crew.running, (id.child i ∈ (g.reaction id (crew.take n)).doomed ↔
      (crew.look n).failure ≠ none) := by
  have halive : (g.tasks id).isAlive = true := by rw [htask]; rfl
  obtain ⟨hrunning, -, -, hcancels⟩ := crew.take_spec n
  rw [Crew.look_failure]
  unfold Gathering.reaction
  cases hlook : (crew.take n).2 with
  | some k =>
    rw [hlook] at hcancels
    obtain ⟨-, e, hfailure, -⟩ := hcancels
    dsimp only
    have hrecorded : Regular plan (some id) extra (g.record [.cancelling g.now k]) :=
      h.record halive (fun _ _ => rfl) fun _ => rfl
    have hself : id ∉ (g.record [.cancelling g.now k]).victims id (crew.take n).1.running :=
      fun hmem => TaskId.child_ne id _ ((Gathering.mem_victims _).mp hmem).1.choose_spec.2
    refine ⟨hrecorded.abortAll (by simpa using halive) _, fun hqueued => ?_, ?_, fun i hi => ?_⟩ <;>
      rw [Gathering.abortAll_eq]
    · simp only [Gathering.record_queue, Gathering.mem_foldl_enqueue, not_or]
      exact ⟨hqueued, hself⟩
    · simp only [Gathering.record_doomed, List.mem_append, List.mem_reverse, not_or]
      exact ⟨hself, hnot⟩
    · simp only [Gathering.record_doomed, List.mem_append, List.mem_reverse, hfailure, ne_eq,
        reduceCtorEq, not_false_eq_true, iff_true]
      refine .inl ((Gathering.mem_victims _).mpr ⟨⟨i, hrunning ▸ hi, rfl⟩, ?_⟩)
      rw [Gathering.record_tasks]
      exact h.running id i (by rwa [htask])
  | none =>
    rw [hlook] at hcancels
    refine ⟨h, fun hqueued => hqueued, hnot, fun i hi => ?_⟩
    rw [hcancels.1]
    exact hdoomed i hi

/-- The owner of a group gives way, with a result set aside. -/
theorem defer (h : Regular plan (some id) extra g)
    (hplan : plan id = some (t, .grouped ds ms ending)) (htask : g.tasks id = .waiting crew ending)
    {crew' : Crew} (hrunning : crew'.running = crew.running)
    (hlog : id ≠ .root → g.log id = Member.opening t ds)
    (hnow : g.now ≤ t + (Member.grouped ds ms ending).duration)
    (hcrew : crew'.Fits (t + ds.sum) ms g.now) (hsize : crew'.size ≠ 0)
    (haside : crew'.aside.length ≤ (extra ++ g.deferred).count id)
    (halarm : ∀ u, (u, id) ∉ g.alarms) (hnot : id ∉ g.doomed)
    (hdoomed : ∀ i ∈ crew'.running, (id.child i ∈ g.doomed ↔ crew'.failure ≠ none)) :
    Regular plan none extra (g.defer id crew' ending) := by
  have hrunning' : crew'.setAside.running = crew.running := by
    rw [← hrunning]
    unfold Crew.setAside
    split <;> rfl
  have hfailure : crew'.setAside.failure = crew'.failure := by
    unfold Crew.setAside
    split <;> rfl
  have haside' : crew'.setAside.aside.length ≤ (extra ++ id :: g.deferred).count id := by
    have := crew'.length_aside_setAside
    rw [List.count_append, List.count_cons_self]
    rw [List.count_append] at haside
    omega
  have hset := g.set_self id (.waiting crew'.setAside ending)
  have halive : ((g.set id (.waiting crew'.setAside ending)).tasks id).isAlive = true := by
    rw [hset]
    rfl
  have hcalled := ((h.set_waiting htask hrunning').postpone).wake halive
  refine hcalled.settle_waiting hplan ?_ ?_ ?_ ?_ (by rwa [Crew.size_setAside])
    (fun _ => Gathering.queued_wake _ extra id) ?_ ?_ (fun hmem => ?_) ?_
  · rw [Gathering.wake_tasks]
    exact hset
  · rw [Gathering.wake_log]
    exact hlog
  · rw [Gathering.wake_now]
    exact hnow
  · rw [Gathering.wake_now]
    exact hcrew.setAside
  · rw [Gathering.wake_deferred]
    exact haside'
  · rw [Gathering.wake_alarms]
    exact halarm
  · rw [Gathering.wake_doomed] at hmem
    exact absurd hmem hnot
  · rw [Gathering.wake_doomed, hrunning', hfailure, ← hrunning]
    exact hdoomed

/-- The owner of a group looks at its results. -/
theorem review (h : Regular plan (some id) extra g)
    (hplan : plan id = some (t, .grouped ds ms ending)) (htask : g.tasks id = .waiting crew ending)
    (hlog : id ≠ .root → g.log id = Member.opening t ds)
    (hnow : g.now ≤ t + (Member.grouped ds ms ending).duration)
    (hcrew : crew.Fits (t + ds.sum) ms g.now)
    (haside : crew.aside.length ≤ (extra ++ g.deferred).count id)
    (halarm : ∀ u, (u, id) ∉ g.alarms) (hqueued : id ∉ g.queue) (hnot : id ∉ g.doomed)
    (hdoomed : ∀ i ∈ crew.running, (id.child i ∈ g.doomed ↔ crew.failure ≠ none)) :
    Regular plan none extra (g.review id) := by
  obtain ⟨h₁, hqueued₁, hnot₁, hdoomed₁⟩ := h.reaction htask hnot hdoomed g.left
  replace hqueued₁ := hqueued₁ hqueued
  obtain ⟨hnow₁, htasks₁, halarms₁, -, hdeferred₁, -, hlog₁⟩ :=
    g.reaction_same id (crew.take g.left)
  have hlook := hcrew.look g.left
  have hrunning := crew.look_running g.left
  have hwatched := crew.look_watched g.left
  rw [g.review_of_waiting htask]
  dsimp only
  rw [← crew.look_aside g.left, ← hdeferred₁] at haside
  rw [← hrunning] at hdoomed₁
  rw [← htasks₁] at htask
  rw [← hnow₁] at hnow hlook
  rw [← hlog₁] at hlog
  rw [← halarms₁] at halarm
  generalize g.reaction id (crew.take g.left) = g₁ at *
  generalize crew.look g.left = crew' at *
  cases hending : crew'.ending? with
  | some e =>
    obtain ⟨hsize, rfl⟩ : crew'.size = 0 ∧ crew'.failure.getD (.ok ()) = e := by
      unfold Crew.ending? at hending
      split at hending
      · rename_i hsize
        exact ⟨hsize, Option.some.inj hending⟩
      · cases hending
    have hempty : (g₁.tasks id).running = [] := by
      have hlen : crew'.running.length = 0 := by
        simp only [Crew.size] at hsize
        omega
      rw [htask, ← List.length_eq_zero_iff.mp hlen]
      exact hrunning.symm
    have halive : (g₁.tasks id).isAlive = true := by rw [htask]; rfl
    by_cases hroot : id = .root
    · subst hroot
      obtain ⟨ms', hplan'⟩ := h.rootPlan
      rw [hplan] at hplan'
      cases hplan'
      exact h₁.leave_root hplan halive hempty halarm hnow hlook hsize
    · exact h₁.leave hplan hroot halive hqueued₁ hempty halarm (hlog hroot) hnow hlook hsize
  | none =>
    have hsize : crew'.size ≠ 0 := fun hsize => by
      unfold Crew.ending? at hending
      rw [if_pos hsize] at hending
      cases hending
    dsimp only
    split
    · rename_i hresults
      refine (h₁.set_waiting htask hrunning).settle_waiting hplan (g₁.set_self _ _) hlog hnow
        hlook hsize ?_ haside halarm (fun hmem => absurd hmem hnot₁) hdoomed₁
      rintro (hne | hnot)
      · exact absurd (List.isEmpty_iff.mp hresults) hne
      · rw [hwatched] at hnot
        cases hnot
    · exact h₁.defer hplan htask hrunning hlog hnow hlook hsize haside halarm hnot₁ hdoomed₁

end Review

/-! ## Going on with an operation -/

/-- The tasks of a group that has just been started are as they are to be. -/
theorem fits_ofSize (t : Nat) (ms : List Member) : (Crew.ofSize ms.length).Fits t ms t where
  nodup := List.nodup_range
  size_le := by simp [Crew.size, Crew.ofSize]
  begun_le := Nat.le_refl t
  gone i m hi hnot := by
    obtain ⟨hlt, -⟩ := List.getElem?_eq_some_iff.mp hi
    exact absurd (List.mem_range.mpr hlt) hnot
  failed e he := by
    rcases he with he | ⟨-, he | he⟩ <;> cases he

/-- The active task has all its delays behind it. -/
theorem afterDelays (h : Regular plan (some id) extra g) (hplan : plan id = some (t, m))
    (halive : (g.tasks id).isAlive = true) (hwaiting : (g.tasks id).isWaiting = false)
    (hqueued : id ∉ g.queue) (hlog : g.log id = Member.opening t m.delays)
    (hnow : g.now = t + m.delays.sum) (halarm : ∀ u, (u, id) ∉ g.alarms) (hnot : id ∉ g.doomed)
    (rest : List Nat) : Regular plan none extra (g.afterDelays id (m.withDelays rest)) := by
  have hroot := h.ne_root halive hwaiting
  cases m with
  | plain ds e =>
    have hrunning : (g.tasks id).running = [] := by
      cases htask : g.tasks id with
      | waiting => rw [htask] at hwaiting; cases hwaiting
      | fresh | asleep | yielded | ended => rfl
    refine h.conclude hplan hroot halive hqueued hrunning halarm hnow (.plain ds e) ?_
    rw [hlog, hnow]
    rfl
  | grouped ds ms e =>
    have houter := h.ne_outer halive
    have hstarted := h.startAll hplan halive hwaiting hnow
    have hunborn : ∀ i, id.child i ∉ g.doomed := fun i =>
      (h.untouched houter hroot (by simp [hwaiting, halive]) i).2.2
    have htask : ((g.set id (.waiting (.ofSize ms.length) e)).startAll id 0 ms).tasks id =
        .waiting (.ofSize ms.length) e := by
      rw [Gathering.startAll_eq]
      exact (Gathering.spawn_of_ne fun i _ => TaskId.ne_child id _).trans (g.set_self id _)
    have hqueue : id ∉ ((g.set id (.waiting (.ofSize ms.length) e)).startAll id 0 ms).queue := by
      rw [Gathering.startAll_eq]
      simp only [Gathering.mem_foldl_enqueue, List.mem_map, not_or]
      exact ⟨hqueued, fun ⟨i, _, hi⟩ => TaskId.child_ne id i hi⟩
    have hsame : ((g.set id (.waiting (.ofSize ms.length) e)).startAll id 0 ms).log id = g.log id ∧
        ((g.set id (.waiting (.ofSize ms.length) e)).startAll id 0 ms).now = g.now ∧
        ((g.set id (.waiting (.ofSize ms.length) e)).startAll id 0 ms).alarms = g.alarms ∧
        ((g.set id (.waiting (.ofSize ms.length) e)).startAll id 0 ms).doomed = g.doomed := by
      rw [Gathering.startAll_eq]
      exact ⟨rfl, rfl, rfl, rfl⟩
    obtain ⟨hlog', hnow', halarms', hdoomed'⟩ := hsame
    refine hstarted.review hplan htask ?_ ?_ ?_ ?_ ?_ hqueue ?_ ?_
    · rw [hlog', hlog]
      exact fun _ => rfl
    · rw [hnow', hnow, Member.duration_eq]
      simp only [Member.delays]
      omega
    · rw [hnow', hnow]
      exact fits_ofSize _ ms
    · exact Nat.zero_le _
    · rwa [halarms']
    · rwa [hdoomed']
    · intro i _
      rw [hdoomed']
      simp [hunborn i, Crew.ofSize]

/-- The active task, which has delays before it, gives way or falls asleep. -/
theorem pause (h : Regular plan (some id) extra g) (halive : (g.tasks id).isAlive = true)
    (hwaiting : (g.tasks id).isWaiting = false) (hnot : id ∉ g.doomed) {T : Task}
    (hT : T.isAlive = true ∧ T.isWaiting = false) {alarms : List (Nat × TaskId)}
    {deferred : List TaskId} (halarms : ∀ x, x ≠ id → ∀ u, (u, x) ∈ alarms ↔ (u, x) ∈ g.alarms)
    (hdeferred : ∀ x, x ≠ id → deferred.count x = g.deferred.count x)
    (hfits : ∀ t m, plan id = some (t, m) → Fits id t m
      (({ g.set id T with alarms, deferred } : Gathering).view extra id)) :
    Regular plan none extra { g.set id T with alarms, deferred } := by
  have hrunning : ∀ {T : Task}, T.isWaiting = false → T.running = [] := fun {T} hT => by
    cases T <;> first | rfl | cases hT
  have hself : ({ g.set id T with alarms, deferred } : Gathering).tasks id = T := g.set_self id T
  have hchanged : Regular plan (some id) extra { g.set id T with alarms, deferred } := by
    refine h.change ⟨fun x hx => ?_, fun _ _ => Iff.rfl, h.nodup, h.root.1, Iff.rfl, halive,
      by rw [hself]; exact hT.1, ?_, ?_, List.Subset.refl _, ?_, rfl, h.quiet⟩
    · refine View.ext rfl (g.set_of_ne hx _) rfl rfl ?_ ?_ rfl
      · exact funext fun u => propext (halarms x hx u)
      · simp only [Gathering.view, List.count_append, hdeferred x hx]
    · rw [hself, hrunning hT.2, hrunning hwaiting]
    · rw [hwaiting]
      intro hfalse
      cases hfalse
    · rintro rfl
      exact h.root.2.2
  refine hchanged.settle hfits (fun hmem => absurd hmem hnot) fun crew ending htask => ?_
  rw [hself] at htask
  rw [htask] at hT
  cases hT.2

/-- The active task goes on with the delays that are before it. -/
theorem sleep (hplan : plan id = some (t, m)) {before after : List Nat}
    (hdelays : m.delays = before ++ after) (h : Regular plan (some id) extra g)
    (halive : (g.tasks id).isAlive = true) (hwaiting : (g.tasks id).isWaiting = false)
    (hqueued : id ∉ g.queue) (hlog : g.log id = Member.opening t before)
    (hnow : g.now = t + before.sum) (halarm : ∀ u, (u, id) ∉ g.alarms) (hnot : id ∉ g.doomed)
    (rest : List Nat) : Regular plan none extra (g.sleep id (m.withDelays rest) after) := by
  have hroot := h.ne_root halive hwaiting
  -- the delays that are over move from those after the task to those before it
  induction after generalizing g before with
  | nil =>
    rw [List.append_nil] at hdelays
    rw [← hdelays] at hlog hnow
    exact h.afterDelays hplan halive hwaiting hqueued hlog hnow halarm hnot rest
  | cons d after ih =>
    rw [Gathering.sleep]
    split
    · -- it can do no more in this turn
      rw [Member.withDelays_withDelays]
      refine h.pause halive hwaiting hnot ⟨rfl, rfl⟩ (fun _ _ _ => Iff.rfl)
        (fun x hx => List.count_cons_of_ne hx.symm) fun t' m' hplan' => ?_
      rw [hplan] at hplan'
      cases hplan'
      refine .yielded hdelays (g.set_self id _) hlog hnow (.inr ?_) halarm
      simp only [Gathering.view, List.count_append, List.count_cons_self]
      omega
    split
    · -- the delay is over at once
      rename_i hzero
      subst hzero
      have hdelays' : m.delays = (before ++ [0]) ++ after := by
        rw [hdelays, List.append_assoc]
        rfl
      refine ih hdelays' ?_ ?_ ?_ ?_ ?_ ?_ ?_ ?_
      · exact Regular.mark (g := { g with left := g.left - 1 }) { h with } halive hroot _
      · simpa using halive
      · simpa using hwaiting
      · simpa using hqueued
      · rw [Gathering.log_mark_self, Member.opening_concat, ← hlog, Nat.add_zero, ← hnow]
        rfl
      · simpa using hnow
      · simpa using halarm
      · simpa using hnot
    · -- it sleeps
      rename_i hpositive
      rw [Member.withDelays_withDelays]
      refine h.pause halive hwaiting hnot ⟨rfl, rfl⟩ (fun x hx u => ?_) (fun _ _ => rfl)
        fun t' m' hplan' => ?_
      · simp [hx]
      · rw [hplan] at hplan'
        cases hplan'
        have hwake : g.now + d = t + (before.sum + d) := by omega
        refine .asleep hdelays (g.set_self id _) hlog ?_ ?_ (.inl ?_) ?_
        · show g.now ≤ _
          omega
        · intro u hu
          have hmem : (u, id) ∈ g.alarms ++ [(g.now + d, id)] := hu
          rw [List.mem_append, List.mem_singleton] at hmem
          rcases hmem with hmem | heq
          · exact absurd hmem (halarm u)
          · rw [← hwake]
            exact congrArg Prod.fst heq
        · exact List.mem_append_right _ (by rw [hwake]; exact List.mem_singleton_self _)
        · rintro (hmem | hcalled)
          · exact absurd hmem hqueued
          · exact absurd hcalled.1 hroot

/-! ## Turns -/

/-- The active task is cancelled, and with it the tasks of its group. -/
theorem drop (h : Regular plan (some id) extra g) (hplan : plan id = some (t, m))
    (halive : (g.tasks id).isAlive = true) (hqueued : id ∉ g.queue) (hdoomed : id ∈ g.doomed)
    (hlog : if (g.tasks id).isUnderWay then
      ∃ done, done <+: m.delays ∧ g.log id = Member.opening t done else g.log id = []) :
    Regular plan none extra (g.drop id) := by
  have hroot : id ≠ .root := fun heq => h.root.2.1 (heq ▸ hdoomed)
  -- whether it has begun or not, it is ready to be ended without alarms
  have hend : ∀ {g : Gathering}, Regular plan (some id) extra g → (g.tasks id).isAlive = true →
      id ∉ g.queue → id ∈ g.doomed → m.Ended t (g.log id) →
      ((g.tasks id).isWaiting = true → ∃ u, (u, Mark.cancelled) ∈ g.log id) →
      Regular plan none extra (({ g with alarms := g.alarms.filter (·.2 != id) }.abortAll id
        (g.tasks id).running).finish id none) := by
    intro g h halive hqueued hdoomed hended hcancelled
    have hfiltered : Regular plan (some id) extra
        { g with alarms := g.alarms.filter (·.2 != id) } := by
      refine h.change ⟨fun x hx => View.ext rfl rfl rfl rfl (funext fun u => ?_) rfl rfl,
        fun _ _ => Iff.rfl, h.nodup, h.root.1, Iff.rfl, halive, halive, rfl, fun hw => hw,
        List.Subset.refl _, ?_, rfl, h.quiet⟩
      · simp [Gathering.view, hx]
      · rintro rfl
        exact h.root.2.2
    have haborted := hfiltered.abortAll halive (g.tasks id).running
    rw [Gathering.abortAll_eq] at haborted ⊢
    refine haborted.finish hplan hroot halive ?_ hended ?_ ?_ ?_ (.inl ⟨rfl, ?_⟩)
    · rw [Gathering.mem_foldl_enqueue, Gathering.mem_victims, not_or]
      exact ⟨hqueued, fun hmem => TaskId.child_ne id _ hmem.1.choose_spec.2⟩
    · simp
    · intro hw
      obtain ⟨u, hu⟩ := hcancelled hw
      exact List.ne_nil_of_mem hu
    · intro i hi
      refine ⟨List.mem_append_left _ (List.mem_reverse.mpr ?_),
        List.mem_append_right _ hdoomed, hcancelled ?_⟩
      · exact (Gathering.mem_victims _).mpr ⟨⟨i, hi, rfl⟩, h.running id i hi⟩
      · have hi' : i ∈ (g.tasks id).running := hi
        cases htask : g.tasks id with
        | waiting => rfl
        | fresh | asleep | yielded | ended => rw [htask] at hi'; cases hi'
    · exact List.mem_append_right _ hdoomed
  unfold Gathering.drop
  dsimp only
  split at hlog
  · rename_i hunder
    obtain ⟨done, hprefix, hlog⟩ := hlog
    rw [if_pos hunder]
    have hmarked := h.mark halive hroot .cancelled
    have hlog' : (g.mark id .cancelled).log id =
        Member.opening t done ++ [(g.now, .cancelled)] := by
      rw [Gathering.log_mark_self, hlog]
    have htasks : (g.mark id .cancelled).tasks = g.tasks := g.record_tasks _
    rw [← htasks] at halive ⊢
    refine hend hmarked halive (by simpa using hqueued)
      (by simpa using hdoomed) ?_ fun _ => ⟨g.now, ?_⟩ <;> rw [hlog']
    · exact .cut hprefix g.now
    · exact List.mem_append_right _ (List.mem_singleton_self _)
  · rename_i hunder
    rw [if_neg hunder]
    refine hend h halive hqueued hdoomed (by rw [hlog]; exact .idle) fun hw => ?_
    cases htask : g.tasks id with
    | waiting => rw [htask] at hunder; exact absurd rfl hunder
    | fresh | asleep | yielded | ended => rw [htask] at hw; cases hw

/-- The owner of a group cancels its tasks if and only if it has seen a failure. -/
theorem doomed_iff (h : Regular plan none extra g) {crew : Crew} {ending : Ending}
    (htask : g.tasks id = .waiting crew ending) :
    ∀ i ∈ crew.running, (id.child i ∈ g.doomed ↔ crew.failure ≠ none) := fun i hi =>
  (h.owned (Option.some_ne_none id).symm htask (h.running id i (by rw [htask]; exact hi))).2

/-- What a task has recorded that has not ended. -/
theorem log_of_isAlive {v : View} (h : Fits id t m v) (hroot : id ≠ .root)
    (halive : v.task.isAlive = true) :
    if v.task.isUnderWay then ∃ done, done <+: m.delays ∧ v.log = Member.opening t done
    else v.log = [] := by
  cases h with
  | fresh htask hlog => rw [htask]; exact hlog
  | asleep hdelays htask hlog => rw [htask]; exact ⟨_, hdelays ▸ List.prefix_append _ _, hlog⟩
  | yielded hdelays htask hlog => rw [htask]; exact ⟨_, hdelays ▸ List.prefix_append _ _, hlog⟩
  | waiting hm htask hlog => rw [htask, hm]; exact ⟨_, List.prefix_refl _, hlog hroot⟩
  | ended htask => rw [htask] at halive; cases halive

/-- **A turn of a task** leaves a gathering regular. -/
theorem run (h : Regular plan none extra g) {rest : List TaskId} (hqueue : g.queue = id :: rest)
    (ran : Nat) :
    Regular plan none extra ({ g with queue := rest, ran, left := stamina }.run id) := by
  have hmem : id ∈ g.queue := by rw [hqueue]; exact List.mem_cons_self
  have hnodup := h.nodup
  rw [hqueue, List.nodup_cons] at hnodup
  have halive := h.queued id hmem
  have hnotRoot : id ≠ .root := fun heq => h.root.1 (heq ▸ hmem)
  obtain ⟨⟨t, m⟩, hplan⟩ := Option.isSome_iff_exists.mp (h.planned id halive)
  have hfits := h.fit hplan
  have hactive : Regular plan (some id) extra { g with queue := rest, ran, left := stamina } := by
    -- taking it from the queue changes what is told about this task only
    have hother : ∀ x, x ≠ id → (x ∈ rest ↔ x ∈ g.queue) := fun x hx => by
      rw [hqueue, List.mem_cons]
      exact ⟨.inr, fun hx' => hx'.resolve_left hx⟩
    refine (h.activate id).change ⟨fun x hx => View.ext rfl rfl (propext ?_) rfl rfl rfl rfl,
      hother, hnodup.2, fun hx => h.root.1 ((hother _ hnotRoot.symm).mp hx), Iff.rfl, halive,
      halive, rfl, fun hw => hw, List.Subset.refl _, fun heq => absurd heq hnotRoot, rfl, h.quiet⟩
    simp only [Gathering.view, hother x hx]
  unfold Gathering.run
  split
  · rename_i hdoomed
    exact hactive.drop hplan halive hnodup.1 hdoomed (log_of_isAlive hfits hnotRoot halive)
  · rename_i hnot
    have hqueued : (g.view extra id).queued := .inl hmem
    cases hfits with
    | fresh htask hlog hnow _ halarm =>
      have htask' : g.tasks id = .fresh m := htask
      replace hnow : g.now = t := hnow
      replace halarm : ∀ u, (u, id) ∉ g.alarms := halarm
      rw [htask']
      have hsleep := (hactive.mark halive hnotRoot .start).sleep hplan
        (show m.delays = [] ++ m.delays from rfl) (by simpa using halive)
        (by simp [htask', Task.isWaiting]) (by simpa using hnodup.1) ?_ (by simpa using hnow)
        (by simpa using halarm) (by simpa using hnot) m.delays
      · rwa [Member.withDelays_delays] at hsleep
      · rw [Gathering.log_mark_self, ← hnow]
        exact congrArg (· ++ [(g.now, Mark.start)]) hlog
    | @asleep done rest' d hdelays htask hlog _ _ _ hready =>
      obtain ⟨htime, hoff⟩ := (hready hqueued).resolve_left hnot
      replace htime : g.now = t + (done.sum + d) := htime
      replace hoff : ∀ u, (u, id) ∉ g.alarms := hoff
      have htask' : g.tasks id = .asleep (m.withDelays rest') := htask
      rw [htask']
      have hstepped : Regular plan (some id) extra
          ({ g with queue := rest, ran, left := stamina - 1 }.mark id .step) :=
        Regular.mark (g := { g with queue := rest, ran, left := stamina - 1 }) { hactive with }
          halive hnotRoot .step
      have hdelays' : m.delays = (done ++ [d]) ++ rest' := by
        rw [hdelays, List.append_assoc]
        rfl
      have hsleep := hstepped.sleep hplan hdelays' (by simpa using halive)
        (by simp [htask', Task.isWaiting]) (by simpa using hnodup.1) ?_ ?_ (by simpa using hoff)
        (by simpa using hnot) rest'
      · simpa using hsleep
      · rw [Gathering.log_mark_self, Member.opening_concat, ← htime]
        exact congrArg (· ++ [(g.now, Mark.step)]) hlog
      · simpa using htime
    | @yielded done rest' hdelays htask hlog hnow _ halarm =>
      have htask' : g.tasks id = .yielded (m.withDelays rest') := htask
      rw [htask']
      have hsleep := hactive.sleep hplan hdelays halive (by simp [htask', Task.isWaiting]) hnodup.1
        hlog hnow halarm hnot rest'
      simpa using hsleep
    | @waiting ds ms ending crew hm htask hlog hnow hcrew _ _ haside halarm =>
      subst hm
      have htask' : g.tasks id = .waiting crew ending := htask
      rw [htask']
      exact hactive.review hplan htask' hlog hnow hcrew haside halarm hnodup.1 hnot
        (h.doomed_iff htask')
    | ended htask => rw [show g.tasks id = .ended from htask] at halive; cases halive

end Regular

end DbLifecycle
