import DbLifecycle.Proofs.Group.Effort
import DbLifecycle.Proofs.Group.Panics
import DbLifecycle.Proofs.Group.Parts

/-!
# The return of a group

When a group returns, and what its tasks record after that.

* `TaskId.Above`, `TaskId.Encloses`: tasks and those of their groups.
* `Gathering.Onward`: what can happen while time stands still: only tasks that have not ended, and
  the tasks that they start, have anything to do with it.
* `Regular.exists_cancelled`: the tasks that have not ended when the group returns belong to tasks
  that were cancelled.
* `Gathering.After`, `After.steps`: what holds when the group has returned.
* **`Gathering.gather_law`**: a group returns in its time, with the end of a quickest failing
  member, and after its members; only tasks of members that were cancelled may end as late as that.
* `Gathering.gather_overtaken`: these may record their end after the return.
-/

namespace DbLifecycle

namespace TaskId

/-! ## Tasks of tasks -/

/-- A task is another one or belongs to its group, or to the group of one that does. -/
def Above (y x : TaskId) : Prop := y.outside = x.outside ∧ y.path <+: x.path

/-- A task belongs to the group of another one, or to the group of one that does. -/
def Encloses (y x : TaskId) : Prop := ∃ i, (y.child i).Above x

theorem Above.refl (x : TaskId) : x.Above x := ⟨rfl, List.prefix_refl _⟩

theorem Above.trans {x y z : TaskId} (h : x.Above y) (h' : y.Above z) : x.Above z :=
  ⟨h.1.trans h'.1, h.2.trans h'.2⟩

theorem above_child (x : TaskId) (i : Nat) : x.Above (x.child i) := ⟨rfl, List.prefix_append _ _⟩

theorem Encloses.trans_above {x y z : TaskId} (h : y.Encloses x) (h' : x.Above z) :
    y.Encloses z := by
  obtain ⟨i, hi⟩ := h
  exact ⟨i, hi.trans h'⟩

end TaskId

namespace Gathering

/-! ## While time stands still -/

/-- A task has not ended, or is one that such a task starts. -/
def Reaches (g : Gathering) (x : TaskId) : Prop :=
  ∃ y : TaskId, y.Above x ∧ (g.tasks y).isAlive = true

/-- What can happen while time stands still, and the group does not return. -/
structure Onward (g g' : Gathering) : Prop where
  now : g'.now = g.now
  alive : ∀ x, (g'.tasks x).isAlive = true → g.Reaches x
  doomed : g.doomed ⊆ g'.doomed
  returned : g'.returned = g.returned
  recorded : ∃ es, (∀ t x what, .mark t x what ∈ es → t = g.now ∧ g.Reaches x) ∧
    g'.entries = (g.record es).entries ∧ g'.later = (g.record es).later

namespace Onward

variable {g g' g'' : Gathering} {id : TaskId}

/-- A change that records nothing and gives no task new life. -/
theorem of_same (hnow : g'.now = g.now)
    (halive : ∀ x, (g'.tasks x).isAlive = true → (g.tasks x).isAlive = true)
    (hdoomed : g.doomed ⊆ g'.doomed) (hreturned : g'.returned = g.returned)
    (hentries : g'.entries = g.entries) (hlater : g'.later = g.later) : g.Onward g' where
  now := hnow
  alive x hx := ⟨x, .refl x, halive x hx⟩
  doomed := hdoomed
  returned := hreturned
  recorded := ⟨[], nofun, by rw [hentries, record_eq]; simp, by rw [hlater, record_eq]; simp⟩

/-- Which tasks can run, and how much, is another matter. -/
theorem reschedule (g : Gathering) (queue : List TaskId) (called : Bool) (ran left : Nat)
    (deferred : List TaskId) : g.Onward { g with queue, called, ran, left, deferred } :=
  of_same rfl (fun _ h => h) (List.Subset.refl _) rfl rfl rfl

theorem refl (g : Gathering) : g.Onward g :=
  of_same rfl (fun _ h => h) (List.Subset.refl _) rfl rfl rfl

theorem reaches (h : g.Onward g') {x : TaskId} (hx : g'.Reaches x) : g.Reaches x := by
  obtain ⟨y, hy, halive⟩ := hx
  obtain ⟨z, hz, halive⟩ := h.alive y halive
  exact ⟨z, hz.trans hy, halive⟩

theorem trans (h : g.Onward g') (h' : g'.Onward g'') : g.Onward g'' where
  now := h'.now.trans h.now
  alive x hx := h.reaches (h'.alive x hx)
  doomed := List.Subset.trans h.doomed h'.doomed
  returned := h'.returned.trans h.returned
  recorded := by
    obtain ⟨es, hes, hentries, hlater⟩ := h.recorded
    obtain ⟨fs, hfs, hentries', hlater'⟩ := h'.recorded
    refine ⟨es ++ fs, fun t x what hmem => ?_, ?_, ?_⟩
    · rcases List.mem_append.mp hmem with hmem | hmem
      · exact hes t x what hmem
      · obtain ⟨ht, hx⟩ := hfs t x what hmem
        exact ⟨ht.trans h.now, h.reaches hx⟩
    · rw [hentries', record_eq, record_eq, h.returned, hentries, record_eq]
      cases g.returned <;> simp
    · rw [hlater', record_eq, record_eq, h.returned, hlater, record_eq]
      cases g.returned <;> simp

theorem of_set {t : Task} (halive : t.isAlive = true → (g.tasks id).isAlive = true) :
    g.Onward (g.set id t) := by
  refine of_same rfl (fun x hx => ?_) (List.Subset.refl _) rfl rfl rfl
  by_cases hid : x = id
  · rw [hid, g.set_self] at hx
    rw [hid]
    exact halive hx
  · rwa [g.set_of_ne hid] at hx

/-- Changes of a task leave all but it and its tasks alone. -/
theorem of_part (h : Part id g g') : g.Onward g' := by
  cases h with
  | record hes =>
    exact
    { now := g.record_now _
      alive := fun x hx => ⟨x, .refl x, by rwa [record_tasks] at hx⟩
      doomed := by rw [record_doomed]; exact List.Subset.refl _
      returned := g.record_returned _
      recorded := ⟨_, fun t x what hmem => by
        obtain ⟨ht, rfl, halive⟩ := hes t x what hmem
        exact ⟨ht, x, .refl x, halive⟩, rfl, rfl⟩ }
  | set halive => exact of_set halive
  | tell _ htask => exact of_set fun _ => by rw [htask]; rfl
  | wake =>
    rw [wake_eq]
    exact of_same rfl (fun _ h => h) (List.Subset.refl _) rfl rfl rfl
  | startAll halive ms =>
    rw [startAll_eq]
    refine ⟨rfl, fun x hx => ?_, List.Subset.refl _, rfl, (refl g).recorded⟩
    by_cases hchild : ∃ i < ms.length, x = id.child (0 + i)
    · obtain ⟨i, -, rfl⟩ := hchild
      exact ⟨id, id.above_child _, halive⟩
    · have hsame : spawn g.tasks id 0 ms x = g.tasks x :=
        spawn_of_ne fun i hi heq => hchild ⟨i, hi, heq⟩
      exact ⟨x, .refl x, hsame ▸ hx⟩
  | abortAll places =>
    rw [abortAll_eq]
    exact of_same rfl (fun _ h => h) (List.subset_append_right _ _) rfl rfl rfl
  | reschedule => exact of_same rfl (fun _ h => h) (List.Subset.refl _) rfl rfl rfl

theorem of_turn (h : Turn id g g') : g.Onward g' := by
  induction h with
  | refl => exact refl g
  | tail _ hpart ih => exact ih.trans (of_part hpart)

theorem quiet (h : g.Onward g') (hquiet : g.Quiet) : g'.Quiet := by
  obtain ⟨es, -, -, hlater⟩ := h.recorded
  exact ⟨h.returned.trans hquiet.1, hlater.trans ((g.record_later es hquiet.1).trans hquiet.2)⟩

/-- There is no task above the owner of the outermost group. -/
theorem root_isAlive (h : g.Onward g') (halive : (g'.tasks .root).isAlive = true) :
    (g.tasks .root).isAlive = true := by
  obtain ⟨⟨o, path⟩, ⟨ho, hpath⟩, halive⟩ := h.alive .root halive
  obtain rfl : path = [] := List.prefix_nil.mp hpath
  obtain rfl : o = false := ho
  exact halive

theorem resumeAll (g : Gathering) (ids : List TaskId) : g.Onward (ids.foldl resume g) := by
  induction ids generalizing g with
  | nil => exact refl g
  | cons id ids ih => exact (of_turn (.resume g id)).trans (ih _)

end Onward

/-- What a step does: time stands still, or the group returns, or time passes when nothing can
run. -/
theorem step_cases (g : Gathering) (hqueue : ∀ x ∈ g.queue, (g.tasks x).isAlive = true ∧ x ≠ .root) :
    g.Onward g.step ∨
    (∃ g₁ e, g.Onward g₁ ∧ (g₁.tasks .root).isAlive = true ∧
      g.step = { g₁.set .root .ended with returned := some (g₁.now, e) }) ∨
    g.AtRest ∧ g.step.tasks = g.tasks ∧ g.step.doomed = g.doomed ∧
      g.step.returned = g.returned ∧ g.step.entries = g.entries ∧ g.step.later = g.later := by
  unfold step
  split
  · have hresumed : g.Onward (g.deferred.foldl resume { g with ran := 0, deferred := [] }) :=
      (Onward.reschedule g g.queue g.called 0 g.left []).trans (.resumeAll _ _)
    unfold turnRound
    dsimp only
    split
    · generalize g.deferred.foldl resume { g with ran := 0, deferred := [] } = g₁ at *
      have hcalled : g.Onward { g₁ with called := false, left := stamina } :=
        hresumed.trans (.reschedule g₁ g₁.queue false g₁.ran stamina g₁.deferred)
      rcases Turn.review { g₁ with called := false, left := stamina } .root with
        hturn | ⟨-, g₂, e, hturn, halive, heq⟩
      · exact .inl (hcalled.trans (.of_turn hturn))
      · exact .inr (.inl ⟨g₂, e, hcalled.trans (.of_turn hturn), halive, heq⟩)
    · exact .inl hresumed
  · rename_i hround
    split
    · rename_i id rest hcons
      obtain ⟨halive, hroot⟩ := hqueue id (by rw [hcons]; exact List.mem_cons_self)
      have hpopped := Onward.reschedule g rest g.called (if g.ran == round then 1 else g.ran + 1)
        stamina g.deferred
      exact .inl (hpopped.trans (.of_turn (.run halive hroot)))
    · rename_i hnil
      have hidle : g.called = false ∧ g.deferred = [] := by simpa [hnil] using hround
      refine .inr (.inr ⟨⟨hnil, hidle.1, hidle.2⟩, ?_⟩)
      unfold wait
      split
      · exact ⟨rfl, rfl, rfl, rfl, rfl⟩
      · exact foldl_wake_same _ _

/-! ## After the return -/

/-- A task that this one belongs to was cancelled by its group before the outermost one returned. -/
def CutOff (g : Gathering) (x : TaskId) : Prop :=
  ∃ y : TaskId, y.Encloses x ∧ y ∈ g.doomed ∧ ∃ t, (t, Mark.cancelled) ∈ marksOf y g.entries

/-- What holds of the tasks of a group when it has returned at some time. -/
structure After (g : Gathering) (u : Nat) : Prop where
  /-- Those that have not ended are about to. -/
  alive : ∀ x, x.outside = false → (g.tasks x).isAlive = true → g.now = u ∧ g.CutOff x
  /-- Those that still record something do so at once. -/
  later : ∀ t x what, x.outside = false → .mark t x what ∈ g.later → t = u ∧ g.CutOff x
  /-- All others had ended. -/
  told : ∀ x t, x.outside = false → (t, Mark.start) ∈ marksOf x g.entries → ¬ g.CutOff x →
    Member.endings (marksOf x g.entries) = 1

end Gathering

/-! ## Ends -/

theorem Member.Ended.endings_eq_one {m : Member} {t : Nat} {l : List (Nat × Mark)}
    (h : m.Ended t l) (hne : l ≠ []) : Member.endings l = 1 := by
  cases h with
  | idle => exact absurd rfl hne
  | told _ => exact Member.endings_story _ _ _
  | cut _ now =>
    rw [Member.endings_append, Member.endings_opening]
    rfl

namespace Regular

variable {plan : Plan} {g : Gathering} {x : TaskId}

/-- A task that has recorded something and has ended did so once. -/
theorem endings_eq_one (h : Regular plan none [] g) (hended : (g.tasks x).isAlive = false)
    (hlog : g.log x ≠ []) : Member.endings (g.log x) = 1 := by
  obtain ⟨⟨t, m⟩, hplan⟩ := Option.isSome_iff_exists.mp (h.recorded x hlog)
  cases h.fit hplan with
  | ended _ hlog' => exact hlog'.endings_eq_one hlog
  | fresh htask | asleep _ htask | yielded _ htask | waiting _ htask =>
    rw [show g.tasks x = _ from htask] at hended
    cases hended

/-- When the outermost group has returned, a task of it that has not ended belongs to one that was
cancelled, and some task has its turn at once. -/
theorem exists_cancelled (h : Regular plan none [] g) (hroot : (g.tasks .root).isAlive = false)
    (hinside : x.outside = false) (halive : (g.tasks x).isAlive = true) :
    g.queue ≠ [] ∧ ∃ y : TaskId, y.Encloses x ∧ g.Cancelled y := by
  obtain ⟨o, path⟩ := x
  cases hinside
  -- up to the first task that has ended: the one below it is to be cancelled
  induction path using List.reverseRecOn with
  | nil => rw [show (⟨false, []⟩ : TaskId) = .root from rfl, hroot] at halive; cases halive
  | append_singleton path i ih =>
    have hchild : (⟨false, path ++ [i]⟩ : TaskId) = TaskId.child ⟨false, path⟩ i := rfl
    rw [hchild] at halive ⊢
    rcases h.linked ⟨false, path⟩ i halive with houter | ⟨crew, ending, htask, -⟩ |
      ⟨-, hdoomed, hcancelled⟩
    · cases houter
    · obtain ⟨hqueue, y, hy, hcancelled⟩ := ih (by rw [htask]; rfl)
      exact ⟨hqueue, y, hy.trans_above (TaskId.above_child _ i), hcancelled⟩
    · have hmem := h.mem_queue_of_doomed hdoomed halive
      exact ⟨List.ne_nil_of_mem hmem, _, ⟨i, .refl _⟩, hcancelled⟩

/-- When the group returns, its tasks have ended, or are about to. -/
theorem after_return (h : Regular plan none [] g) {e : Ending}
    (hreturned : g.returned = some (g.now, e)) (hlater : g.later = []) :
    g.After g.now := by
  have hroot : (g.tasks .root).isAlive = false := by
    rw [← Bool.not_eq_true, h.root_isAlive, hreturned]
    exact nofun
  have hlog : ∀ x, g.log x = marksOf x g.entries := fun x => by
    rw [Gathering.log, Gathering.records, hreturned, hlater, List.append_nil]
  have hcut : ∀ x, x.outside = false → (g.tasks x).isAlive = true → g.CutOff x :=
    fun x hinside halive => by
      obtain ⟨-, y, hy, hdoomed, t, ht⟩ := h.exists_cancelled hroot hinside halive
      exact ⟨y, hy, hdoomed, t, hlog y ▸ ht⟩
  refine ⟨fun x hinside halive => ⟨rfl, hcut x hinside halive⟩, fun t x what _ hmem => ?_,
    fun x t hinside hstart hnot => ?_⟩
  · rw [hlater] at hmem
    cases hmem
  · have hended : (g.tasks x).isAlive = false := by
      rw [← Bool.not_eq_true]
      exact fun halive => hnot (hcut x hinside halive)
    have hone := h.endings_eq_one hended (by
      rw [hlog]
      exact List.ne_nil_of_mem hstart)
    rwa [hlog] at hone

/-- The owner of the outermost group ends it in the turn that it has. -/
theorem after_leave {g₀ g₁ : Gathering} {e : Ending} (hquiet : g₀.Quiet) (honward : g₀.Onward g₁)
    (heq : g = { g₁.set .root .ended with returned := some (g₁.now, e) })
    (h : Regular plan none [] g) : g.After g.now := by
  subst heq
  exact h.after_return rfl (honward.quiet hquiet).2

theorem after_start (members outside : List Member) {u : Nat} {e : Ending}
    (hreturned : (Gathering.start members outside).returned = some (u, e)) :
    (Gathering.start members outside).After u := by
  have h := Regular.start members outside
  have heq := Gathering.start_eq members outside
  rcases Gathering.Turn.review (Gathering.ready members outside) .root with
    hturn | ⟨-, g₁, e', hturn, -, hleave⟩
  · rw [heq, (Gathering.Onward.of_turn hturn).returned] at hreturned
    cases hreturned
  · have hafter := after_leave ⟨rfl, rfl⟩ (.of_turn hturn) (heq.trans hleave) h
    rw [heq.trans hleave] at hreturned hafter ⊢
    cases hreturned
    exact hafter

end Regular

namespace Gathering

variable {plan : Plan} {g g' : Gathering} {u : Nat}

/-- After the return, only tasks of cancelled tasks have anything to do with what happens. -/
theorem After.onward (h : g.After u) (hreturned : g.returned ≠ none) (honward : g.Onward g') :
    g'.After u := by
  obtain ⟨es, hes, hentries, hlater⟩ := honward.recorded
  obtain ⟨p, hp⟩ := Option.ne_none_iff_exists'.mp hreturned
  rw [record_eq, hp] at hentries hlater
  replace hentries : g'.entries = g.entries := hentries
  replace hlater : g'.later = g.later ++ es := hlater
  have hcut : ∀ {x}, g.CutOff x → g'.CutOff x := fun ⟨y, hy, hdoomed, ht⟩ =>
    ⟨y, hy, honward.doomed hdoomed, hentries.symm ▸ ht⟩
  have hreached : ∀ {x : TaskId}, x.outside = false → g.Reaches x → g.now = u ∧ g'.CutOff x :=
    fun {x} hinside ⟨y, hy, halive⟩ => by
      obtain ⟨hnow, z, hz, hdoomed⟩ := h.alive y (hy.1.trans hinside) halive
      exact ⟨hnow, hcut ⟨z, hz.trans_above hy, hdoomed⟩⟩
  refine ⟨fun x hinside halive => ?_, fun t x what hinside hmem => ?_,
    fun x t hinside hstart hnot => ?_⟩
  · rw [honward.now]
    exact hreached hinside (honward.alive x halive)
  · rw [hlater, List.mem_append] at hmem
    rcases hmem with hmem | hmem
    · exact (h.later t x what hinside hmem).imp_right hcut
    · obtain ⟨rfl, hx⟩ := hes t x what hmem
      exact hreached hinside hx
  · rw [hentries] at hstart ⊢
    exact h.told x t hinside hstart fun hx => hnot (hcut hx)

theorem After.step (h : Regular plan none [] g)
    (hafter : ∀ u e, g.returned = some (u, e) → g.After u) {e : Ending}
    (hreturned : g.step.returned = some (u, e)) : g.step.After u := by
  rcases g.step_cases fun x hx => ⟨h.queued x hx, fun heq => h.root.1 (heq ▸ hx)⟩ with
    honward | ⟨g₁, e', honward, halive, heq⟩ | ⟨hrest, htasks, hdoomed, hsame, hentries, hlater⟩
  · rw [honward.returned] at hreturned
    exact (hafter u e hreturned).onward (by rw [hreturned]; exact nofun) honward
  · -- its owner had not ended before
    have hnone := h.root_isAlive.mp (honward.root_isAlive halive)
    have hafter := Regular.after_leave ⟨hnone, h.quiet hnone⟩ honward heq h.step
    rw [heq] at hreturned hafter ⊢
    cases hreturned
    exact hafter
  · rw [hsame] at hreturned
    have hroot : (g.tasks .root).isAlive = false := by
      rw [← Bool.not_eq_true, h.root_isAlive, hreturned]
      exact nofun
    have hbefore := hafter u e hreturned
    refine ⟨fun x hinside halive => ?_, fun t x what hinside hmem => ?_,
      fun x t hinside hstart hnot => ?_⟩
    · rw [htasks] at halive
      exact absurd hrest.queue (h.exists_cancelled hroot hinside halive).1
    · rw [hlater] at hmem
      rw [CutOff, hdoomed, hentries]
      exact hbefore.later t x what hinside hmem
    · rw [hentries] at hstart ⊢
      refine hbefore.told x t hinside hstart fun hx => hnot ?_
      rwa [CutOff, hdoomed, hentries]

theorem After.steps (h : Regular plan none [] g)
    (hafter : ∀ u e, g.returned = some (u, e) → g.After u) (n : Nat) {e : Ending}
    (hreturned : (g.steps n).returned = some (u, e)) : (g.steps n).After u := by
  -- the first step after which the group has returned makes it so, and later ones keep it
  induction n generalizing g with
  | zero => exact hafter u e hreturned
  | succ n ih => exact ih h.step (fun u e hreturned => After.step h hafter hreturned) hreturned

/-! ## The law of groups -/

section Law

variable (members outside : List Member)

/-- A group returns after the time that is to be expected, and ends as one of its quickest failing
members if there are any. -/
theorem gather_returned : ∃ e, (gather members outside).returned =
      some (Member.groupDuration members, e) ∧
    (e.isOk = true ↔ Member.anyFails members = false) ∧
    (e.isOk = false → ∃ m ∈ members, m.fails = true ∧
      m.duration = Member.groupDuration members ∧ m.EndsWith e) := by
  have h : Regular (plan members outside) none [] (gather members outside) :=
    (Regular.start members outside).steps _
  have hended : (gather members outside).returned ≠ none := fun hnone => by
    have halive := h.root_isAlive.mpr hnone
    rw [gather_ended] at halive
    cases halive
  obtain ⟨⟨u, e⟩, heq⟩ := Option.ne_none_iff_exists'.mp hended
  have hreturned := h.returned
  rw [heq, plan_root] at hreturned
  obtain ⟨-, t, m, hm, rfl, hends⟩ := hreturned
  cases hm
  have hok := hends.isOk
  rw [Member.fails, Outcome.isOk, Bool.not_true, Bool.or_false] at hok
  refine ⟨e, ?_, by rw [hok, Bool.not_eq_true'], fun hnot => ?_⟩
  · rw [heq, Member.duration_eq]
    simp [Member.delays, Member.children]
  · cases hends with
    | joined => cases hnot
    | stopped hmem hfails hfirst h => exact ⟨_, hmem, hfails, hfirst, h⟩

theorem gather_after {u : Nat} {e : Ending} (h : (gather members outside).returned = some (u, e)) :
    (gather members outside).After u :=
  After.steps (Regular.start members outside)
    (fun _ _ hreturned => Regular.after_start members outside hreturned) _ h

/-- In the end, every task that has started has ended, and has done so once. -/
theorem gather_endings {x : TaskId} (h : (gather members outside).log x ≠ []) :
    Member.endings ((gather members outside).log x) = 1 :=
  ((Regular.start members outside).steps _).endings_eq_one (gather_ended members outside x) h

/-- With errors in place of panics, everything happens at the same time, the same tasks are
cancelled, and only the marks of panics differ. -/
theorem gather_calm :
    let calm := gather (Member.recastAll .calm members) (Member.recastAll .calm outside)
    calm.returned = (gather members outside).returned.map (fun r => (r.1, Recast.calm.ending r.2)) ∧
    (∀ x, x ∈ calm.doomed ↔ x ∈ (gather members outside).doomed) ∧
    ∀ x, List.Forall₂ (fun a b => b.1 = a.1 ∧
      (b.2 = a.2 ∨ a.2 = .panicked ∧ (b.2 = .failed ∨ b.2 = .cancelled)))
      ((gather members outside).log x) (calm.log x) := by
  have h := gather_recast .calm members outside
  exact ⟨(h.root rfl).2.2, fun x => h.doomed x rfl,
    fun x => (h.log x rfl).imp fun _ _ hab => ⟨hab.1, hab.2.of_calm⟩⟩

/-- **The law of groups.** A group returns after the time that is to be expected: that of its
quickest failing member, whose error or panic it returns, or that of its slowest member. By then
every task of it that has started has ended, once, unless a task that it belongs to was cancelled;
tasks of these record nothing later than at that time. Panics are treated as errors. -/
theorem gather_law :
    (∃ e, (gather members outside).returned = some (Member.groupDuration members, e) ∧
      (e.isOk = true ↔ Member.anyFails members = false) ∧
      (e.isOk = false → ∃ m ∈ members, m.fails = true ∧
        m.duration = Member.groupDuration members ∧ m.EndsWith e)) ∧
    (∀ x t, x.outside = false → (t, Mark.start) ∈ marksOf x (gather members outside).entries →
      ¬ (gather members outside).CutOff x →
      Member.endings (marksOf x (gather members outside).entries) = 1) ∧
    (∀ x t what, x.outside = false → .mark t x what ∈ (gather members outside).later →
      t = Member.groupDuration members ∧ (gather members outside).CutOff x) ∧
    (∀ x, (gather members outside).log x ≠ [] →
      Member.endings ((gather members outside).log x) = 1) ∧
    let calm := gather (Member.recastAll .calm members) (Member.recastAll .calm outside)
    calm.returned = (gather members outside).returned.map (fun r => (r.1, Recast.calm.ending r.2)) ∧
    (∀ x, x ∈ calm.doomed ↔ x ∈ (gather members outside).doomed) ∧
    ∀ x, List.Forall₂ (fun a b => b.1 = a.1 ∧
      (b.2 = a.2 ∨ a.2 = .panicked ∧ (b.2 = .failed ∨ b.2 = .cancelled)))
      ((gather members outside).log x) (calm.log x) := by
  obtain ⟨e, hreturned, hend⟩ := gather_returned members outside
  have hafter := gather_after members outside hreturned
  exact ⟨⟨e, hreturned, hend⟩, hafter.told, fun x t what => hafter.later t x what,
    fun x => gather_endings members outside, gather_calm members outside⟩

end Law

set_option maxRecDepth 100000 in
/-- The tasks of a member that is cancelled may end after the group has returned: this one has
started before. -/
theorem gather_overtaken :
    let members : List Member := [.grouped [] (List.replicate 61 (.plain [5] (.ok ()))) (.ok ()),
      .plain [1] (.error "x")]
    let x : TaskId := ⟨false, [0, 60]⟩
    (gather members []).returned = some (1, .error "x") ∧
      (0, Mark.start) ∈ marksOf x (gather members []).entries ∧
      Member.endings (marksOf x (gather members []).entries) = 0 ∧
      .mark 1 x .cancelled ∈ (gather members []).later := by
  decide +kernel

end Gathering

end DbLifecycle
