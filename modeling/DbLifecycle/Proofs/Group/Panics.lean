import DbLifecycle.Proofs.Group.Alike
import DbLifecycle.Proofs.Group.Rounds

/-!
# Panics and errors

How an operation fails makes no difference to what happens when, and to what is cancelled.

* `everyone`: all tasks, which are a family.
* `Abreast.step`, `Abreast.start`: two gatherings whose tasks fail in different ways.
* **`Gathering.gather_recast`**: they are side by side in the end.
* `Recast.calm`: errors in place of panics.
-/

namespace DbLifecycle

/-- All tasks. -/
def everyone (_ : TaskId) : Bool := true

theorem family_everyone : Family everyone := ⟨fun _ _ _ => rfl, fun _ _ _ => .inl rfl⟩

theorem filter_everyone (ids : List TaskId) : ids.filter everyone = ids :=
  List.filter_eq_self.mpr fun _ _ => rfl

namespace Recast

/-- Errors in place of panics. -/
def calm : Recast where
  ending
    | .ok u => .ok u
    | .error text | .panic text => .error text
  isOk e := by cases e <;> rfl

/-- With an error in place of a panic, a task has failed, or is cancelled with its group. -/
theorem Marks.of_calm {a b : Mark} (h : calm.Marks a b) :
    b = a ∨ a = .panicked ∧ (b = .failed ∨ b = .cancelled) := by
  cases h with
  | same => exact .inl rfl
  | ended e =>
    cases e with
    | ok | error => exact .inl rfl
    | panic => exact .inr ⟨rfl, .inl rfl⟩
  | stopped e =>
    cases e with
    | ok | error => exact .inl rfl
    | panic => exact .inr ⟨rfl, .inr rfl⟩

end Recast

namespace Member

mutual

theorem work_recast (c : Recast) : (m : Member) → (m.recast c).work = m.work
  | plain _ _ => rfl
  | grouped ds ms _ => congrArg (4 * ds.length + 6 + ·) (groupWork_recastAll c ms)

theorem groupWork_recastAll (c : Recast) : (ms : List Member) →
    groupWork (recastAll c ms) = groupWork ms
  | [] => rfl
  | m :: ms => congrArg₂ (· + ·) (work_recast c m) (groupWork_recastAll c ms)

end

end Member

namespace Gathering

variable {c : Recast} {g p : Gathering}

namespace Alike

theorem queue_eq (h : Alike everyone c g p) : p.queue = g.queue := by
  have hqueue := h.queue
  rwa [filter_everyone, filter_everyone] at hqueue

theorem alarms_eq (h : Alike everyone c g p) : p.alarms = g.alarms := by
  simpa [everyone] using h.alarms

theorem deferred_eq (h : Alike everyone c g p) : p.deferred = g.deferred := by
  have hdeferred := h.deferred
  rwa [filter_everyone, filter_everyone] at hdeferred

end Alike

namespace Abreast

theorem resumeAll (h : Abreast everyone c g p) (ids : List TaskId) :
    Abreast everyone c (ids.foldl Gathering.resume g) (ids.foldl Gathering.resume p) := by
  induction ids generalizing g p with
  | nil => exact h
  | cons id ids ih => exact ih (h.resume rfl)

theorem wakeAll (h : Abreast everyone c g p) (alarms : List (Nat × TaskId)) :
    Abreast everyone c (alarms.foldl (fun g a => g.wake a.2) g)
      (alarms.foldl (fun g a => g.wake a.2) p) := by
  induction alarms generalizing g p with
  | nil => exact h
  | cons a alarms ih => exact ih (h.wake rfl)

theorem wait (h : Abreast everyone c g p) : Abreast everyone c g.wait p.wait := by
  unfold Gathering.wait
  rw [h.alarms_eq]
  cases earliest g.alarms with
  | none => exact h
  | some t =>
    have hlater : Abreast everyone c
        { g with now := t, ran := 0, alarms := g.alarms.filter (t < ·.1) }
        { p with now := t, ran := 0, alarms := g.alarms.filter (t < ·.1) } :=
      { h with
        alarms := rfl
        root := fun hroot => ⟨(h.root hroot).1, rfl, (h.root hroot).2.2⟩
        now := rfl }
    exact hlater.wakeAll _

variable {plan plan' : Plan}

theorem turnRound (h : Abreast everyone c g p) (hg : Regular plan none [] g)
    (hp : Regular plan' none [] p) : Abreast everyone c g.turnRound p.turnRound := by
  have hfirst : Abreast everyone c { g with ran := 0, deferred := [] }
      { p with ran := 0, deferred := [] } :=
    { h with
      deferred := rfl
      root := fun hroot => ⟨(h.root hroot).1, rfl, (h.root hroot).2.2⟩ }
  have hresumed := hfirst.resumeAll g.deferred
  have hg' := hg.recallAll.resumeAll
  have hp' := hp.recallAll.resumeAll
  unfold Gathering.turnRound
  rw [h.deferred_eq] at hp' ⊢
  dsimp only
  generalize g.deferred.foldl Gathering.resume { g with ran := 0, deferred := [] } = g₁ at *
  generalize g.deferred.foldl Gathering.resume { p with ran := 0, deferred := [] } = p₁ at *
  rw [(hresumed.root rfl).1]
  split
  · have hcalled : Abreast everyone c { g₁ with called := false, left := stamina }
        { p₁ with called := false, left := stamina } :=
      { hresumed with
        root := fun hroot => ⟨rfl, (hresumed.root hroot).2⟩
        left := rfl }
    refine hcalled.review family_everyone rfl fun _ halive => ?_
    have halive' : (p₁.tasks .root).isAlive = true := by
      rw [hresumed.tasks .root rfl, Task.isAlive_recast]
      exact halive
    have hnone := hg'.root_isAlive.mp halive
    have hnone' := hp'.root_isAlive.mp halive'
    exact ⟨⟨hnone, hg'.quiet hnone⟩, hnone', hp'.quiet hnone'⟩
  · exact hresumed

/-- A step keeps the gatherings side by side. -/
theorem step (h : Abreast everyone c g p) (hg : Regular plan none [] g)
    (hp : Regular plan' none [] p) : Abreast everyone c g.step p.step := by
  obtain ⟨hcalled, hran, hreturned⟩ := h.root rfl
  have hround : ((p.queue.isEmpty || p.ran == round) && (p.called || !p.deferred.isEmpty)) =
      ((g.queue.isEmpty || g.ran == round) && (g.called || !g.deferred.isEmpty)) := by
    rw [h.queue_eq, hran, hcalled, h.deferred_eq]
  unfold Gathering.step
  rw [hround, h.queue_eq, hran]
  split
  · exact h.turnRound hg hp
  split
  · rename_i id rest hqueue
    have hpopped : Abreast everyone c
        { g with queue := rest, ran := if g.ran == round then 1 else g.ran + 1, left := stamina }
        { p with queue := rest, ran := if g.ran == round then 1 else g.ran + 1, left := stamina } :=
      { h with
        queue := rfl
        root := fun _ => ⟨hcalled, rfl, hreturned⟩
        left := rfl }
    refine hpopped.run family_everyone rfl fun heq => hg.root.1 ?_
    rw [hqueue, heq]
    exact List.mem_cons_self
  · exact h.wait

theorem steps (h : Abreast everyone c g p) (hg : Regular plan none [] g)
    (hp : Regular plan' none [] p) (n : Nat) : Abreast everyone c (g.steps n) (p.steps n) := by
  induction n generalizing g p with
  | zero => exact h
  | succ n ih => exact ih (h.step hg hp) hg.step hp.step

theorem start (c : Recast) (members outside : List Member) :
    Abreast everyone c (start members outside)
      (start (Member.recastAll c members) (Member.recastAll c outside)) := by
  have hempty : Abreast everyone c {} {} :=
    { tasks := fun _ _ => rfl
      queue := rfl
      doomed := fun _ _ => Iff.rfl
      alarms := rfl
      deferred := rfl
      log := fun _ _ => .nil
      root := fun _ => ⟨rfl, rfl, rfl⟩
      outer := .inl rfl
      now := rfl
      left := rfl }
  have houtside := hempty.startAll family_everyone (show everyone .outer = true from rfl) 0 outside
  have hroot := houtside.set (show everyone .root = true from rfl)
    (.waiting (.ofSize members.length) (.ok ()))
  have hsize : (Task.waiting (.ofSize members.length) (.ok ())).recast c =
      .waiting (.ofSize (Member.recastAll c members).length) (.ok ()) := by
    rw [Member.recastAll_eq_map, List.length_map, Task.recast, c.ending_ok]
    rfl
  rw [hsize] at hroot
  have hmembers := hroot.startAll family_everyone (show everyone .root = true from rfl) 0 members
  have hquiet : ∀ ms os : List Member, ((((({} : Gathering).startAll .outer 0 os).set .root
      (.waiting (.ofSize ms.length) (.ok ()))).startAll .root 0 ms)).Quiet := fun ms os => by
    rw [startAll_eq, startAll_eq]
    exact ⟨rfl, rfl⟩
  exact hmembers.review family_everyone rfl fun _ _ => ⟨hquiet _ _, hquiet _ _⟩

end Abreast

/-- **How operations fail** makes no difference to what happens when, and to what is cancelled. -/
theorem gather_recast (c : Recast) (members outside : List Member) :
    Abreast everyone c (gather members outside)
      (gather (Member.recastAll c members) (Member.recastAll c outside)) := by
  have hbound : bound (Member.recastAll c members) (Member.recastAll c outside) =
      bound members outside := by
    rw [bound, bound, Member.groupWork_recastAll, Member.groupWork_recastAll]
  unfold gather
  rw [hbound]
  exact (Abreast.start c members outside).steps (Regular.start _ _) (Regular.start _ _) _

end Gathering

end DbLifecycle
