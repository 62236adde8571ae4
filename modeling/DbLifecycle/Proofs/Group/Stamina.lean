import DbLifecycle.Proofs.Group.Company

/-!
# Giving way

A task gives way when it has done as much in one turn as it can. One that never has more to do does
not.

* `Member.modest`: operations that have no more to do.
* `Gathering.deferred_sleep`, `Gathering.deferred_review`: turns with enough stamina.
* **`Regular.steps_deferred`**: the tasks of a modest operation outside do not give way.
-/

namespace DbLifecycle

/-! ## Modest operations -/

namespace Member

mutual

/-- No part of an operation has more delays, and no group more members, than can be dealt with in one
turn. -/
def modest : Member → Bool
  | plain ds _ => decide (ds.length ≤ stamina)
  | grouped ds ms _ => decide (ds.length ≤ stamina) && decide (ms.length ≤ stamina) && allModest ms

def allModest : List Member → Bool
  | [] => true
  | m :: ms => modest m && allModest ms

end

theorem allModest_iff {ms : List Member} : allModest ms = true ↔ ∀ m ∈ ms, m.modest = true := by
  induction ms with
  | nil => simp [allModest]
  | cons m ms ih => simp [allModest, ih]

theorem modest_iff {m : Member} : m.modest = true ↔ m.delays.length ≤ stamina ∧
    m.children.length ≤ stamina ∧ ∀ m' ∈ m.children, m'.modest = true := by
  cases m with
  | plain => simp [modest, delays, children]
  | grouped => simp [modest, delays, children, allModest_iff, and_assoc]

/-- The parts of a modest operation are modest. -/
theorem modest_of_descend {p q : Nat × Member} {path : List Nat} (hp : p.2.modest = true)
    (h : descend p path = some q) : q.2.modest = true := by
  induction path generalizing p with
  | nil =>
    cases h
    exact hp
  | cons i path ih =>
    rw [descend, childAt] at h
    obtain ⟨r, hr, hrest⟩ := Option.bind_eq_some_iff.mp h
    obtain ⟨m, hm, rfl⟩ := Option.map_eq_some_iff.mp hr
    exact ih ((modest_iff.mp hp).2.2 m (List.mem_of_getElem? hm)) hrest

end Member

namespace Gathering

variable {F : TaskId → Bool} {g : Gathering} {id : TaskId}

/-! ## Turns with enough stamina -/

theorem deferred_finish (g : Gathering) (id : TaskId) (r : Result) :
    (g.finish id r).deferred = g.deferred := by
  unfold finish
  dsimp only
  split
  · rfl
  split
  · split
    · rw [wake_deferred]
      rfl
    · rfl
  · rfl

theorem deferred_conclude (g : Gathering) (id : TaskId) (e : Ending) :
    (g.conclude id e).deferred = g.deferred := by
  rw [conclude, deferred_finish, mark_deferred]

theorem deferred_leave (g : Gathering) (id : TaskId) (ending e : Ending) :
    (g.leave id ending e).deferred = g.deferred := by
  unfold leave
  split
  · rfl
  split
  · rw [deferred_conclude, mark_deferred]
  · rw [deferred_finish, mark_deferred]

theorem deferred_drop (g : Gathering) (id : TaskId) : (g.drop id).deferred = g.deferred := by
  unfold drop
  dsimp only
  rw [deferred_finish, abortAll_eq]
  dsimp only
  split
  · rw [mark_deferred]
  · rfl

/-- The owner of a group does not give way when it can take all results. -/
theorem deferred_review {crew : Crew} {ending : Ending} (htask : g.tasks id = .waiting crew ending)
    (hleft : crew.results.length ≤ g.left) : (g.review id).deferred = g.deferred := by
  obtain ⟨-, -, -, -, hdeferred, -, -⟩ := g.reaction_same id (crew.take g.left)
  have hempty : (crew.look g.left).results.isEmpty = true := by
    rw [crew.look_results, List.drop_eq_nil_of_le hleft]
    rfl
  rw [g.review_of_waiting htask]
  dsimp only
  split
  · rw [deferred_leave, hdeferred]
  · rw [if_pos hempty]
    exact hdeferred

/-- An operation does not give way when it can deal with all delays. -/
theorem deferred_sleep {m : Member} {ds : List Nat} (hleft : ds.length ≤ g.left) :
    (g.sleep id m ds).deferred = g.deferred := by
  induction ds generalizing g with
  | nil =>
    rw [sleep]
    cases m with
    | plain ds e => exact deferred_conclude g id e
    | grouped ds ms e =>
      rw [afterDelays, deferred_review (g.started id ms e).tasks_self (Nat.zero_le _), startAll_eq]
      rfl
  | cons d ds ih =>
    rw [List.length_cons] at hleft
    rw [sleep, if_neg (by omega)]
    split
    · rw [ih (by rw [mark_left]; exact Nat.le_sub_one_of_lt hleft), mark_deferred]
    · rfl

end Gathering

namespace Regular

variable {plan : Plan} {extra : List TaskId} {F : TaskId → Bool} {g : Gathering} {id : TaskId}

open Gathering

/-- A task that has no more to do than it can does not give way in its turn. -/
theorem deferred_run (h : Regular plan none extra g) {rest : List TaskId}
    (hqueue : g.queue = id :: rest) {t : Nat} {m : Member} (hplan : plan id = some (t, m))
    (hmodest : m.modest = true) (ran : Nat) :
    ({ g with queue := rest, ran, left := stamina }.run id).deferred = g.deferred := by
  obtain ⟨hdelays, hchildren, -⟩ := Member.modest_iff.mp hmodest
  have hmem : id ∈ g.queue := by rw [hqueue]; exact List.mem_cons_self
  unfold Gathering.run
  split
  · exact deferred_drop _ _
  cases h.fit hplan with
  | fresh htask =>
    rw [show ({ g with queue := rest, ran, left := stamina } : Gathering).tasks id = _ from htask]
    dsimp only
    rw [deferred_sleep, mark_deferred]
    rw [mark_left]
    exact hdelays
  | @asleep done rest' d hm htask =>
    rw [show ({ g with queue := rest, ran, left := stamina } : Gathering).tasks id = _ from htask]
    dsimp only
    rw [deferred_sleep, mark_deferred]
    rw [mark_left, Member.delays_withDelays]
    rw [hm, List.length_append, List.length_cons] at hdelays
    show rest'.length ≤ stamina - 1
    omega
  | @yielded done rest' hm htask =>
    rw [show ({ g with queue := rest, ran, left := stamina } : Gathering).tasks id = _ from htask]
    dsimp only
    rw [deferred_sleep]
    rw [Member.delays_withDelays]
    rw [hm, List.length_append] at hdelays
    show rest'.length ≤ stamina
    omega
  | @waiting ds ms ending crew hm htask _ _ hcrew =>
    rw [show ({ g with queue := rest, ran, left := stamina } : Gathering).tasks id = _ from htask]
    subst hm
    refine deferred_review htask ?_
    have hsize := hcrew.size_le
    simp only [Crew.size] at hsize
    have hlength : ms.length ≤ stamina := hchildren
    show crew.results.length ≤ stamina
    omega
  | ended htask =>
    have halive := h.queued id hmem
    rw [show g.tasks id = .ended from htask] at halive
    cases halive

section Family

variable (hF : Family F) (hroot : F .root = false) (houter : F .outer = false)
include hF hroot houter

/-- In a step, no modest operation of a family gives way. -/
theorem step_deferred (h : Regular plan none [] g)
    (hmodest : ∀ x t m, F x = true → plan x = some (t, m) → m.modest = true)
    (hsteady : g.deferred.filter F = []) : g.step.deferred.filter F = [] := by
  have hothers : ∀ x ∈ g.deferred, F x = false := by
    simpa [List.filter_eq_nil_iff] using hsteady
  by_cases hround : ((g.queue.isEmpty || g.ran == round) && (g.called || !g.deferred.isEmpty)) = true
  · -- those that are called back are others, and so is the owner of the outermost group
    rw [Gathering.step, if_pos hround]
    have hresumed := (Alike.refl (F := F) { g with ran := 0, deferred := [] }
      (.inr h.outer)).resumeAll_left hF houter hothers
    have hg' := h.recallAll.resumeAll
    unfold Gathering.turnRound
    dsimp only
    generalize g.deferred.foldl Gathering.resume { g with ran := 0, deferred := [] } = g₁ at *
    split
    · have hcalled : Alike F .same { g₁ with called := false, left := stamina }
          { g with ran := 0, deferred := [] } :=
        { hresumed with root := fun hroot' => by rw [hroot] at hroot'; cases hroot' }
      rw [← (hcalled.review_root_left hF hroot fun halive => ?_).1.deferred]
      · rfl
      · have hnone := hg'.root_isAlive.mp halive
        exact ⟨hnone, hg'.quiet hnone⟩
    · rw [← hresumed.deferred]
      rfl
  cases hqueue : g.queue with
  | cons id rest =>
    rw [Gathering.step, if_neg hround, hqueue]
    have hmem : id ∈ g.queue := by rw [hqueue]; exact List.mem_cons_self
    have halive := h.queued id hmem
    cases hid : F id with
    | false =>
      have hself := Alike.refl (F := F) { g with
        queue := rest
        ran := if g.ran == round then 1 else g.ran + 1
        left := stamina } (.inr h.outer)
      rw [← (hself.of_turn hF hid (h.ne_outer halive)
        (.run halive fun heq => h.root.1 (heq ▸ hmem))).deferred]
      exact hsteady
    | true =>
      obtain ⟨⟨t, m⟩, hplan⟩ := Option.isSome_iff_exists.mp (h.planned id halive)
      rw [h.deferred_run hqueue hplan (hmodest id t m hid hplan)]
      exact hsteady
  | nil =>
    rw [Gathering.step, if_neg hround, hqueue]
    dsimp only
    cases hnext : earliest g.alarms with
    | none =>
      unfold Gathering.wait
      rw [hnext]
      exact hsteady
    | some t =>
      rw [wait_eq hnext fun a ha => (h.alarm_spec ha).2.2.1]
      exact hsteady

/-- **No task of a modest family gives way.** -/
theorem steps_deferred (h : Regular plan none [] g)
    (hmodest : ∀ x t m, F x = true → plan x = some (t, m) → m.modest = true)
    (hsteady : g.deferred.filter F = []) (n : Nat) : (g.steps n).deferred.filter F = [] := by
  induction n generalizing g with
  | zero => exact hsteady
  | succ n ih => exact ih h.step (h.step_deferred hF hroot houter hmodest hsteady)

end Family

end Regular

namespace Gathering

/-- The tasks of a modest operation outside do not give way. -/
theorem not_mem_deferred {members outside : List Member} {j : Nat} {m : Member}
    (hj : outside[j]? = some m) (hmodest : m.modest = true) (n : Nat) {x : TaskId}
    (hx : (TaskId.outer.child j).Above x) : x ∉ ((start members outside).steps n).deferred := by
  have hplan : ∀ x t m', family j x = true → plan members outside x = some (t, m') →
      m'.modest = true := fun x t m' hx hplan => by
    obtain ⟨houtside, path, hpath⟩ := of_decide_eq_true hx
    obtain ⟨o, _⟩ := x
    obtain rfl : o = true := houtside.symm
    subst hpath
    have hchild : Member.childAt (0, .grouped [] outside (.ok ())) j = some (0, m) := by
      simp [Member.childAt, Member.children, Member.delays, hj]
    have hdescend : Member.descend (0, m) path = some (t, m') := by
      have hfirst : plan members outside ⟨true, j :: path⟩ =
          (Member.childAt (0, .grouped [] outside (.ok ())) j).bind (Member.descend · path) := rfl
      rw [hchild] at hfirst
      exact hfirst.symm.trans hplan
    exact Member.modest_of_descend (p := (0, m)) hmodest hdescend
  have hstart : (start members outside).deferred.filter (family j) = [] := by
    rw [start_eq, deferred_review (ready_root members outside) (Nat.zero_le _)]
    rfl
  have hnone := (Regular.start members outside).steps_deferred (family_family j) (family_root j)
    (family_outer j) hplan hstart n
  intro hmem
  have hnot := List.filter_eq_nil_iff.mp hnone x hmem
  exact hnot (decide_eq_true hx)

end Gathering

end DbLifecycle
