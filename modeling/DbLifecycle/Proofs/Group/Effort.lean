import Mathlib.Algebra.BigOperators.Group.Finset.Basic
import Mathlib.Data.Set.Finite.Lattice
import DbLifecycle.Proofs.Group.Rounds

/-!
# Gatherings come to their end

Every step of a gathering makes what is left to do less, until nothing is left.

* `Gathering.effortOf`, `Gathering.effort`: what is left to do.
* `Gathering.effort_finish`, `Gathering.effort_review`, `Gathering.effort_sleep`: what the parts of
  a step make of it.
* **`Regular.effort_step_lt`**: a step makes it less, unless all is done.
* `Gathering.gather_done`: all is done in the end.
-/

namespace DbLifecycle

theorem stamina_ne_zero : stamina ≠ 0 := by decide

/-- What a task still has before it, without its end. -/
def Task.remaining : Task → Nat
  | .fresh m | .asleep m | .yielded m => 4 * m.delays.length + Member.groupWork m.children
  | .waiting crew _ => 3 * (crew.results.length + crew.aside.length)
  | .ended => 0

namespace Gathering

/-- What the end of a task takes: it may be cancelled once, and its owner hears of its end. -/
def toll (g : Gathering) (x : TaskId) : Nat :=
  if x = .root then 0 else if x ∈ g.doomed then 4 else 5

/-- What is left to do for a task. -/
def effortOf (g : Gathering) (x : TaskId) : Nat :=
  if (g.tasks x).isAlive then (g.tasks x).remaining + g.toll x else 0

/-- What is left to do, for some tasks that all others are among. -/
def effort (s : Finset TaskId) (g : Gathering) : Nat :=
  g.queue.length + g.called.toNat + 2 * g.deferred.length + 2 * g.alarms.length +
    ∑ x ∈ s, g.effortOf x

variable {s : Finset TaskId} {g : Gathering} {id : TaskId}

theorem toll_of_ne_root (hroot : id ≠ .root) (hnot : id ∉ g.doomed) : g.toll id = 5 := by
  rw [toll, if_neg hroot, if_neg hnot]

theorem four_le_toll (hroot : id ≠ .root) : 4 ≤ g.toll id := by
  rw [toll, if_neg hroot]
  split <;> omega

theorem effortOf_of_isAlive (halive : (g.tasks id).isAlive = true) :
    g.effortOf id = (g.tasks id).remaining + g.toll id := if_pos halive

/-! ## Single changes -/

/-- A sum of which one term changes. -/
theorem sum_add_eq (f f' : TaskId → Nat) {x : TaskId} (hx : x ∈ s)
    (h : ∀ y, y ≠ x → f' y = f y) : ∑ y ∈ s, f' y + f x = ∑ y ∈ s, f y + f' x := by
  have hrest : ∑ y ∈ s.erase x, f' y = ∑ y ∈ s.erase x, f y :=
    Finset.sum_congr rfl fun y hy => h y (Finset.ne_of_mem_erase hy)
  rw [← Finset.sum_erase_add s f' hx, ← Finset.sum_erase_add s f hx, hrest]
  omega

theorem effort_record (g : Gathering) (es : List Entry) :
    effort s (g.record es) = effort s g := by
  simp [effort, effortOf, toll]

theorem effortOf_record (g : Gathering) (es : List Entry) (x : TaskId) :
    (g.record es).effortOf x = g.effortOf x := by
  simp [effortOf, toll]

theorem effort_mark (g : Gathering) (id : TaskId) (what : Mark) :
    effort s (g.mark id what) = effort s g :=
  effort_record g _

theorem effortOf_mark (g : Gathering) (id x : TaskId) (what : Mark) :
    (g.mark id what).effortOf x = g.effortOf x :=
  effortOf_record g _ x

theorem effort_wake (g : Gathering) (id : TaskId) :
    effort s (g.wake id) ≤ effort s g + 1 := by
  rw [wake_eq]
  by_cases hroot : id = .root
  · have := Bool.toNat_le (g.called || decide (id = .root))
    simp only [effort, effortOf, toll, if_pos hroot]
    omega
  · have := length_enqueue_le g.queue id
    simp only [effort, effortOf, toll, hroot, decide_false, Bool.or_false, if_false]
    omega

/-- Only the task itself is changed. -/
theorem effort_set (hid : id ∈ s) (t : Task) :
    effort s (g.set id t) + g.effortOf id = effort s g + (g.set id t).effortOf id := by
  have hsum := sum_add_eq g.effortOf (g.set id t).effortOf hid fun y hy => by
    simp only [effortOf, g.set_of_ne hy]
    rfl
  simp only [effort] at hsum ⊢
  simp only [set] at hsum ⊢
  omega

theorem effortOf_set_self (id : TaskId) {t : Task} (halive : t.isAlive = true) :
    (g.set id t).effortOf id = t.remaining + g.toll id := by
  rw [effortOf, g.set_self, if_pos halive]
  rfl

theorem effortOf_set_ended (id : TaskId) : (g.set id .ended).effortOf id = 0 := by
  rw [effortOf, g.set_self, if_neg (by simp [Task.isAlive])]

/-! ## Cancelling and starting tasks -/

/-- Cancelling a task is paid for by its not being cancelled again. -/
theorem effort_doom {x : TaskId} (hx : x ∈ s) (halive : (g.tasks x).isAlive = true)
    (hroot : x ≠ .root) (hdoomed : x ∈ g.doomed → x ∈ g.queue) :
    effort s { g with queue := enqueue g.queue x, doomed := x :: g.doomed } ≤ effort s g := by
  have hsum := sum_add_eq g.effortOf ({ g with
      queue := enqueue g.queue x, doomed := x :: g.doomed } : Gathering).effortOf hx
    fun y hy => by simp only [effortOf, toll, List.mem_cons, hy, false_or]
  have hafter : ({ g with queue := enqueue g.queue x, doomed := x :: g.doomed }
      : Gathering).effortOf x = (g.tasks x).remaining + 4 := by
    simp only [effortOf, toll, halive, if_true, hroot, if_false, List.mem_cons, true_or]
  have hbefore := effortOf_of_isAlive halive
  by_cases hmem : x ∈ g.doomed
  · have hqueue : enqueue g.queue x = g.queue := if_pos (hdoomed hmem)
    have := four_le_toll (g := g) hroot
    simp only [effort, hqueue] at hsum hafter ⊢
    omega
  · have := length_enqueue_le g.queue x
    have := toll_of_ne_root hroot hmem
    simp only [effort] at hsum hafter ⊢
    omega

/-- Cancelling tasks of a group does not make what is left more. -/
theorem effort_abortAll (halive : ∀ x, (g.tasks x).isAlive = true → x ∈ s)
    (hdoomed : ∀ x ∈ g.doomed, (g.tasks x).isAlive = true → x = id ∨ x ∈ g.queue)
    (places : List Nat) : effort s (g.abortAll id places) ≤ effort s g := by
  induction places generalizing g with
  | nil => exact Nat.le_refl _
  | cons i places ih =>
    have hfold : g.abortAll id (i :: places) = (g.abort (id.child i)).abortAll id places := rfl
    rw [hfold]
    cases hchild : (g.tasks (id.child i)).isAlive with
    | false =>
      rw [show g.abort (id.child i) = g by rw [abort, Task.eq_ended hchild]]
      exact ih halive hdoomed
    | true =>
      have hdoom := effort_doom (halive _ hchild) hchild (TaskId.child_ne_root id i) fun hmem =>
        (hdoomed _ hmem hchild).resolve_left (TaskId.child_ne id i)
      rw [← abort_of_isAlive g hchild] at hdoom
      refine le_trans (ih ?_ ?_) hdoom <;> rw [abort_of_isAlive g hchild]
      · exact halive
      intro x hx hlives
      rw [mem_enqueue]
      rcases List.mem_cons.mp hx with rfl | hx
      · exact .inr (.inr rfl)
      · exact (hdoomed x hx hlives).imp_right .inl

/-- Every task that is started has its work before it. -/
theorem effort_startAll (owner : TaskId) (place : Nat) (ms : List Member)
    (hids : ∀ i < ms.length, owner.child (place + i) ∈ s) :
    effort s (g.startAll owner place ms) ≤ effort s g + Member.groupWork ms := by
  induction ms generalizing g place with
  | nil => exact Nat.le_refl _
  | cons m ms ih =>
    have hset := effort_set (g := g) (hids 0 (Nat.zero_lt_succ _)) (.fresh m)
    rw [effortOf_set_self _ rfl] at hset
    have hwake := effort_wake (s := s) (g.set (owner.child place) (.fresh m)) (owner.child place)
    have hrest := ih (g := (g.set (owner.child place) (.fresh m)).wake (owner.child place))
      (place + 1) fun i hi => by
        rw [Nat.add_assoc, Nat.add_comm 1]
        exact hids (i + 1) (Nat.succ_lt_succ hi)
    have htoll : g.toll (owner.child place) ≤ 5 := by
      unfold toll
      split <;> [omega; split <;> omega]
    have hwork : Member.work m = 4 * m.delays.length + Member.groupWork m.children + 6 := by
      cases m with
      | plain ds e => rfl
      | grouped ds ms e => rw [Member.work, Member.delays, Member.children]; omega
    have hgroup : Member.groupWork (m :: ms) = Member.work m + Member.groupWork ms := rfl
    rw [startAll]
    simp only [Nat.add_zero, Task.remaining] at hset
    omega

/-! ## The end of a task -/

/-- The end of a task is heard of by its owner, which may be called. -/
theorem effort_finish {owner : TaskId} {place : Nat} (hid : owner.child place ∈ s)
    (howner : owner ∈ s) (r : Result) :
    effort s (g.finish (owner.child place) r) + g.effortOf (owner.child place) ≤
      effort s g + 4 := by
  have hend := effort_set (g := g) hid .ended
  rw [effortOf_set_ended] at hend
  cases htask : g.tasks owner with
  | waiting crew ending =>
    rw [finish_of_waiting g htask]
    dsimp only
    have htask' : (g.set (owner.child place) .ended).tasks owner = .waiting crew ending :=
      (g.set_of_ne (TaskId.ne_child owner place) _).trans htask
    have htold := effort_set (g := g.set (owner.child place) .ended) howner
      (.waiting (crew.announce place r) ending)
    rw [effortOf_set_self _ rfl, effortOf_of_isAlive (by rw [htask']; rfl), htask'] at htold
    simp only [Task.remaining, Crew.announce, List.length_append, List.length_singleton] at htold
    split
    · have := effort_wake (s := s) ((g.set (owner.child place) .ended).set owner
        (.waiting (crew.announce place r) ending)) owner
      simp only [Crew.announce] at this ⊢
      omega
    · simp only [Crew.announce]
      omega
  | fresh | asleep | yielded | ended =>
    rw [finish_of_not_waiting g (by rw [htask]; rfl)]
    omega

section Turn

variable (hclosed : ∀ x i, x.child i ∈ s → x ∈ s)
include hclosed

theorem effort_finish_of_ne (hid : id ∈ s) (hroot : id ≠ .root) (houter : id ≠ .outer)
    (r : Result) : effort s (g.finish id r) + g.effortOf id ≤ effort s g + 4 := by
  obtain ⟨owner, place, rfl⟩ := TaskId.exists_child hroot houter
  exact effort_finish hid (hclosed owner place hid) r

theorem effort_conclude (hid : id ∈ s) (hroot : id ≠ .root) (houter : id ≠ .outer) (e : Ending) :
    effort s (g.conclude id e) + g.effortOf id ≤ effort s g + 4 := by
  have hfinish := effort_finish_of_ne hclosed (g := g.mark id (.ofEnding e)) hid hroot houter
    (some e)
  rw [effort_mark, effortOf_mark] at hfinish
  exact hfinish

/-- The end of a group takes no more than the end of its owner. -/
theorem effort_leave (hid : id ∈ s) (houter : id ≠ .outer) (halive : (g.tasks id).isAlive = true)
    (ending e : Ending) : effort s (g.leave id ending e) ≤ effort s g := by
  unfold leave
  split
  · have hset := effort_set (g := g) hid .ended
    rw [effortOf_set_ended] at hset
    have hsame : effort s { g.set id .ended with returned := some (g.now, e) } =
        effort s (g.set id .ended) := rfl
    omega
  · rename_i hroot
    have hprice : 4 ≤ g.effortOf id := by
      rw [effortOf_of_isAlive halive]
      exact Nat.le_add_left_of_le (four_le_toll hroot)
    split
    · have hconclude := effort_conclude hclosed (g := g.mark id .groupOk) hid hroot houter ending
      rw [effort_mark, effortOf_mark] at hconclude
      omega
    · have hfinish := effort_finish_of_ne hclosed (g := g.mark id (.ofStop e)) hid hroot houter
        (some e)
      rw [effort_mark, effortOf_mark] at hfinish
      omega

/-! ## Turns -/

omit hclosed in
/-- What becomes of the tasks of a group makes what is left to do no more. -/
theorem effort_reaction (hlives : ∀ x, (g.tasks x).isAlive = true → x ∈ s)
    (hdoomed : ∀ x ∈ g.doomed, (g.tasks x).isAlive = true → x = id ∨ x ∈ g.queue)
    (look : Crew × Option Nat) : effort s (g.reaction id look) ≤ effort s g := by
  unfold reaction
  split
  · rename_i n _
    rw [← effort_record g [.cancelling g.now n]]
    exact effort_abortAll (by simpa using hlives) (by simpa using hdoomed) _
  · exact Nat.le_refl _

omit hclosed in
/-- There is nothing to see when a group has just been started. -/
theorem effort_reaction_ofSize (g : Gathering) (id : TaskId) (size n : Nat) :
    effort s (g.reaction id ((Crew.ofSize size).take n)) = effort s g := by
  have hnone : (Crew.ofSize size).take n = (.ofSize size, none) := by
    simp [Crew.take, Crew.ofSize, Result.firstFailure]
  rw [hnone]
  rfl

/-- Looking at the results, of which at least one can be taken, makes what is left to do no more. -/
theorem effort_review {crew : Crew} {ending : Ending} (hid : id ∈ s) (houter : id ≠ .outer)
    (htask : g.tasks id = .waiting crew ending) (hleft : crew.results = [] ∨ g.left ≠ 0)
    (hreaction : effort s (g.reaction id (crew.take g.left)) ≤ effort s g) :
    effort s (g.review id) ≤ effort s g := by
  rw [g.review_of_waiting htask]
  dsimp only
  have htask₁ : (g.reaction id (crew.take g.left)).tasks id = .waiting crew ending :=
    (congrFun (g.reaction_same id _).2.1 id).trans htask
  have hresults := crew.look_results g.left
  have haside := crew.look_aside g.left
  generalize g.reaction id (crew.take g.left) = g₁ at *
  generalize crew.look g.left = crew' at *
  have hlength : crew'.results.length = crew.results.length - g.left := by
    rw [hresults, List.length_drop]
  have hbefore : g₁.effortOf id =
      3 * (crew.results.length + crew.aside.length) + g₁.toll id := by
    rw [effortOf_of_isAlive (by rw [htask₁]; rfl), htask₁]
    rfl
  split
  · exact (effort_leave hclosed hid houter (by rw [htask₁]; rfl) _ _).trans hreaction
  split
  · -- it waits, and has taken all results
    have hset := effort_set (g := g₁) hid (.waiting crew' ending)
    rw [effortOf_set_self _ rfl, hbefore] at hset
    simp only [Task.remaining, haside] at hset
    omega
  · -- it has taken at least one, and pays with that for being called again
    rename_i hmore
    have hpositive : 1 ≤ crew'.results.length :=
      List.length_pos_iff.mpr fun hnil => hmore (by rw [hnil]; rfl)
    have hset := effort_set (g := g₁) hid (.waiting crew'.setAside ending)
    rw [effortOf_set_self _ rfl, hbefore] at hset
    have hsame : crew'.setAside.results.length + crew'.setAside.aside.length =
        crew'.results.length + crew'.aside.length := by
      unfold Crew.setAside
      split
      · rfl
      · rename_i r rest hrest
        simp only [hrest, List.length_cons]
        omega
    have hwake := effort_wake (s := s)
      { g₁.set id (.waiting crew'.setAside ending) with deferred := id :: g₁.deferred } id
    have hdeferred : effort s
        { g₁.set id (.waiting crew'.setAside ending) with deferred := id :: g₁.deferred } =
        effort s (g₁.set id (.waiting crew'.setAside ending)) + 2 := by
      simp only [effort, effortOf, toll, set, List.length_cons]
      omega
    have htaken : g.left ≠ 0 := hleft.resolve_left fun hnil => by
      rw [hlength, hnil] at hpositive
      simp at hpositive
    unfold defer
    simp only [Task.remaining, haside] at hset hsame
    omega

/-- An operation goes on with its delays: each takes four, of which two are for its alarm, and two
more for giving way before it. -/
theorem effort_sleep {m : Member} {ds : List Nat} (hid : id ∈ s) (hroot : id ≠ .root)
    (houter : id ≠ .outer) (halive : (g.tasks id).isAlive = true) (hnot : id ∉ g.doomed)
    (hchildren : ∀ i < m.children.length, id.child i ∈ s) :
    effort s (g.sleep id m ds) + g.effortOf id ≤ effort s g + 4 * ds.length +
      Member.groupWork m.children + 5 + if g.left = 0 then 2 else 0 := by
  induction ds generalizing g with
  | nil =>
    rw [sleep]
    cases m with
    | plain ds e =>
      have := effort_conclude hclosed (g := g) hid hroot houter e
      rw [afterDelays]
      omega
    | grouped ds ms e =>
      have hset := effort_set (g := g) hid (.waiting (.ofSize ms.length) e)
      rw [effortOf_set_self _ rfl, toll_of_ne_root hroot hnot] at hset
      have hstart := effort_startAll (s := s) (g := g.set id (.waiting (.ofSize ms.length) e))
        id 0 ms (by simpa [Member.children] using hchildren)
      have hreview := effort_review hclosed hid houter (g.started id ms e).tasks_self (.inl rfl)
        (Nat.le_of_eq (effort_reaction_ofSize _ _ _ _))
      have hremaining : (Task.waiting (.ofSize ms.length) e).remaining = 0 := rfl
      rw [afterDelays]
      simp only [Member.children]
      omega
  | cons d ds ih =>
    have hlength : (d :: ds).length = ds.length + 1 := rfl
    rw [sleep]
    split
    · -- it gives way
      have hset := effort_set (g := g) hid (.yielded (m.withDelays (d :: ds)))
      rw [effortOf_set_self _ rfl, toll_of_ne_root hroot hnot] at hset
      have hdeferred : effort s { g.set id (.yielded (m.withDelays (d :: ds))) with
          deferred := id :: g.deferred } =
          effort s (g.set id (.yielded (m.withDelays (d :: ds)))) + 2 := by
        simp only [effort, effortOf, toll, set, List.length_cons]
        omega
      simp only [Task.remaining, Member.delays_withDelays, Member.children_withDelays] at hset
      omega
    split
    · -- the delay is over at once
      have hrest := ih (g := { g with left := g.left - 1 }.mark id .step)
        (by simpa using halive) (by simpa using hnot)
      rw [effort_mark, effortOf_mark] at hrest
      have hsame : effort s { g with left := g.left - 1 } = effort s g ∧
          ({ g with left := g.left - 1 } : Gathering).effortOf id = g.effortOf id := ⟨rfl, rfl⟩
      split at hrest <;> omega
    · -- it sleeps
      have hset := effort_set (g := g) hid (.asleep (m.withDelays ds))
      rw [effortOf_set_self _ rfl, toll_of_ne_root hroot hnot] at hset
      have halarms : effort s { g.set id (.asleep (m.withDelays ds)) with
          alarms := g.alarms ++ [(g.now + d, id)] } =
          effort s (g.set id (.asleep (m.withDelays ds))) + 2 := by
        simp only [effort, effortOf, toll, set, List.length_append, List.length_singleton]
        omega
      simp only [Task.remaining, Member.delays_withDelays, Member.children_withDelays] at hset
      omega

/-- With some stamina left, the delays before it and its end pay for all that a task does. -/
theorem effort_sleep_le {m : Member} (hid : id ∈ s) (hroot : id ≠ .root) (houter : id ≠ .outer)
    (halive : (g.tasks id).isAlive = true) (hnot : id ∉ g.doomed)
    (hchildren : ∀ i < m.children.length, id.child i ∈ s) (hleft : g.left ≠ 0)
    (hremaining : (g.tasks id).remaining = 4 * m.delays.length + Member.groupWork m.children) :
    effort s (g.sleep id m m.delays) ≤ effort s g := by
  have hslept : effort s (g.sleep id m m.delays) + g.effortOf id ≤ effort s g +
      4 * m.delays.length + Member.groupWork m.children + 5 + if g.left = 0 then 2 else 0 :=
    effort_sleep hclosed hid hroot houter halive hnot hchildren
  rw [if_neg hleft, effortOf_of_isAlive halive, toll_of_ne_root hroot hnot, hremaining] at hslept
  omega

/-- Cancelling a task takes no more than its end. -/
theorem effort_drop (hid : id ∈ s) (hroot : id ≠ .root) (houter : id ≠ .outer)
    (halive : (g.tasks id).isAlive = true) (hlives : ∀ x, (g.tasks x).isAlive = true → x ∈ s)
    (hdoomed : ∀ x ∈ g.doomed, (g.tasks x).isAlive = true → x = id ∨ x ∈ g.queue) :
    effort s (g.drop id) ≤ effort s g := by
  unfold drop
  dsimp only
  have hmarked : ∀ g' : Gathering, effort s g' = effort s g → g'.tasks = g.tasks →
      g'.doomed = g.doomed → g'.queue = g.queue →
      effort s (({ g' with alarms := g'.alarms.filter (·.2 != id) }.abortAll id
        (g.tasks id).running).finish id none) ≤ effort s g := by
    intro g' heffort htasks hdoom hqueue
    have hfilter : effort s { g' with alarms := g'.alarms.filter (·.2 != id) } ≤
        effort s g' := by
      have := List.length_filter_le (·.2 != id) g'.alarms
      simp only [effort, effortOf, toll]
      omega
    have habort : effort s ({ g' with alarms := g'.alarms.filter (·.2 != id) }.abortAll id
        (g.tasks id).running) ≤ effort s { g' with alarms := g'.alarms.filter (·.2 != id) } :=
      effort_abortAll (by simpa only [htasks] using hlives)
        (by simpa only [htasks, hdoom, hqueue] using hdoomed) _
    have hend := effort_finish_of_ne hclosed (g := { g' with
      alarms := g'.alarms.filter (·.2 != id) }.abortAll id (g.tasks id).running) hid hroot houter none
    have hprice : 4 ≤ ({ g' with alarms := g'.alarms.filter (·.2 != id) }.abortAll id
        (g.tasks id).running).effortOf id := by
      rw [effortOf_of_isAlive (by rw [abortAll_eq]; simpa only [htasks] using halive)]
      exact Nat.le_add_left_of_le (four_le_toll hroot)
    omega
  split
  · exact hmarked _ (effort_record g _) (g.record_tasks _) (g.record_doomed _) (g.record_queue _)
  · exact hmarked g rfl rfl rfl rfl

end Turn

/-! ## Rounds -/

/-- A task that gave way is called back. -/
theorem effort_resume (hid : (g.tasks id).isWaiting = true → id ∈ s) :
    effort s (g.resume id) ≤ effort s g + 1 := by
  unfold resume
  cases htask : g.tasks id with
  | yielded m => exact effort_wake g id
  | waiting crew ending =>
    have hset := effort_set (g := g) (hid (by rw [htask]; rfl)) (.waiting crew.callBack ending)
    rw [effortOf_set_self _ rfl, effortOf_of_isAlive (by rw [htask]; rfl), htask] at hset
    have hsame : crew.callBack.results.length + crew.callBack.aside.length =
        crew.results.length + crew.aside.length := by
      unfold Crew.callBack
      split
      · rfl
      · rename_i r rest haside
        simp only [haside, List.length_append, List.length_cons, List.length_nil]
        omega
    have hwake := effort_wake (s := s) (g.set id (.waiting crew.callBack ending)) id
    simp only [Task.remaining] at hset
    dsimp only
    split <;> omega
  | fresh | asleep | ended => exact Nat.le_succ _

/-- The alarms that are due become calls, of which each takes half as much. -/
theorem effort_wait_lt (hroot : ∀ a ∈ g.alarms, a.2 ≠ .root) (hne : g.alarms ≠ []) :
    effort s g.wait < effort s g := by
  have hspec := earliest_spec g.alarms
  cases hnext : earliest g.alarms with
  | none =>
    rw [hnext] at hspec
    exact absurd hspec hne
  | some t =>
    rw [hnext] at hspec
    obtain ⟨⟨x, hx⟩, -⟩ := hspec
    rw [wait_eq hnext hroot, waited]
    have hqueue := length_foldl_enqueue_le g.queue (g.due t)
    have hdue : 0 < (g.alarms.filter (·.1 ≤ t)).length :=
      List.length_pos_of_mem (a := (t, x)) (by simpa using hx)
    have hsplit : (g.alarms.filter (·.1 ≤ t)).length + (g.alarms.filter (t < ·.1)).length =
        g.alarms.length := by
      rw [List.length_eq_length_filter_add (·.1 ≤ t) (l := g.alarms)]
      congr 3
      funext a
      rw [← decide_not]
      exact decide_eq_decide.mpr Nat.not_le.symm
    have hlength : (g.due t).length = (g.alarms.filter (·.1 ≤ t)).length := List.length_map _
    simp only [effort, effortOf, toll]
    omega

/-! ## The end -/

/-- Nothing can run, and no task wakes. -/
def Done (g : Gathering) : Prop := g.AtRest ∧ g.alarms = []

theorem step_of_done (h : g.Done) : g.step = g := by
  obtain ⟨⟨hqueue, hcalled, hdeferred⟩, halarms⟩ := h
  simp [step, wait, hqueue, hcalled, hdeferred, halarms, earliest]

theorem steps_add (g : Gathering) (n k : Nat) : g.steps (n + k) = (g.steps n).steps k := by
  induction n generalizing g with
  | zero => rw [Nat.zero_add]; rfl
  | succ n ih => rw [Nat.succ_add]; exact ih g.step

theorem steps_of_done (h : g.Done) (n : Nat) : g.steps n = g := by
  induction n with
  | zero => rfl
  | succ n ih => rw [steps, step_of_done h, ih]

end Gathering

/-! ## Steps -/

namespace Regular

variable {plan : Plan} {s : Finset TaskId} {g : Gathering} {id : TaskId} {extra : List TaskId}

section Step

variable (hids : ∀ x, x ∈ s ↔ (plan x).isSome = true)
include hids

theorem closed (h : Regular plan none extra g) (x : TaskId) (i : Nat) (hx : x.child i ∈ s) :
    x ∈ s := by
  rw [hids] at hx ⊢
  obtain ⟨p, hp⟩ := Option.isSome_iff_exists.mp hx
  rw [h.coherent] at hp
  obtain ⟨q, hq, -⟩ := Option.bind_eq_some_iff.mp hp
  rw [hq]
  rfl

/-- A turn of a task makes what is left to do less. -/
theorem effort_run_lt (h : Regular plan none extra g) {rest : List TaskId}
    (hqueue : g.queue = id :: rest) (ran : Nat) :
    Gathering.effort s ({ g with queue := rest, ran, left := stamina }.run id) <
      Gathering.effort s g := by
  have hmem : id ∈ g.queue := by rw [hqueue]; exact List.mem_cons_self
  have halive := h.queued id hmem
  have hroot : id ≠ .root := fun heq => h.root.1 (heq ▸ hmem)
  have houter := h.ne_outer halive
  have hlives : ∀ x, (g.tasks x).isAlive = true → x ∈ s := fun x hx =>
    (hids x).mpr (h.planned x hx)
  have hid := hlives id halive
  have hclosed := h.closed hids
  have hdoomed : ∀ x ∈ g.doomed, (g.tasks x).isAlive = true → x = id ∨ x ∈ rest := by
    intro x hx hxalive
    have hq := h.mem_queue_of_doomed hx hxalive
    rwa [hqueue, List.mem_cons] at hq
  obtain ⟨⟨t, m⟩, hplan⟩ := Option.isSome_iff_exists.mp (h.planned id halive)
  have hchildren : ∀ i < m.children.length, id.child i ∈ s := fun i hi => by
    rw [hids, h.coherent, hplan]
    simp [Member.childAt, hi]
  set g' : Gathering := { g with queue := rest, ran, left := stamina } with hg'
  have hpop : Gathering.effort s g' + 1 = Gathering.effort s g := by
    simp only [hg', Gathering.effort, Gathering.effortOf, Gathering.toll, hqueue, List.length_cons]
    omega
  refine Nat.lt_of_lt_of_le (Nat.lt_succ_of_le ?_) (Nat.le_of_eq hpop)
  unfold Gathering.run
  split
  · exact Gathering.effort_drop hclosed hid hroot houter halive hlives hdoomed
  rename_i hnot
  cases h.fit hplan with
  | fresh htask =>
    have htask' : g'.tasks id = .fresh m := htask
    rw [htask']
    refine (Gathering.effort_sleep_le hclosed hid hroot houter (by simpa using halive)
      (by simpa using hnot) hchildren ?_ ?_).trans_eq (Gathering.effort_record g' _)
    · rw [Gathering.mark_left]
      exact stamina_ne_zero
    · rw [Gathering.mark_tasks, htask']
      rfl
  | @asleep done rest' d _ htask =>
    have htask' : g'.tasks id = .asleep (m.withDelays rest') := htask
    rw [htask']
    refine (Gathering.effort_sleep_le hclosed hid hroot houter (by simpa using halive)
      (by simpa using hnot) (by rwa [m.children_withDelays]) ?_ ?_).trans_eq
      (Gathering.effort_record { g' with left := stamina - 1 } _)
    · rw [Gathering.mark_left]
      show stamina - 1 ≠ 0
      decide
    · rw [Gathering.mark_tasks, htask']
      rfl
  | @yielded done rest' _ htask =>
    have htask' : g'.tasks id = .yielded (m.withDelays rest') := htask
    rw [htask']
    refine Gathering.effort_sleep_le hclosed hid hroot houter halive hnot
      (by rwa [m.children_withDelays]) stamina_ne_zero ?_
    rw [htask']
    rfl
  | waiting _ htask =>
    rw [show g'.tasks id = _ from htask]
    exact Gathering.effort_review hclosed hid houter htask (.inr stamina_ne_zero)
      (Gathering.effort_reaction (g := g') hlives hdoomed _)
  | ended htask =>
    rw [show g.tasks id = .ended from htask] at halive
    cases halive

theorem effort_resumeAll {deferred : List TaskId} (h : Regular plan none deferred g) :
    Gathering.effort s (deferred.foldl Gathering.resume g) ≤
      Gathering.effort s g + deferred.length := by
  induction deferred generalizing g with
  | nil => exact Nat.le_refl _
  | cons id deferred ih =>
    have hone : Gathering.effort s (g.resume id) ≤ Gathering.effort s g + 1 :=
      Gathering.effort_resume fun hwaiting => (hids id).mpr (h.planned id (by
        cases htask : g.tasks id with
        | ended => rw [htask] at hwaiting; cases hwaiting
        | fresh | asleep | yielded | waiting => rfl))
    have hrest := ih h.resume
    rw [List.foldl_cons, List.length_cons]
    omega

/-- Looking at the results of the outermost group makes what is left to do no more. -/
theorem effort_review_root (h : Regular plan none [] g) :
    Gathering.effort s ({ g with called := false, left := stamina }.review .root) ≤
      Gathering.effort s { g with called := false, left := stamina } := by
  cases htask : g.tasks .root with
  | waiting crew ending =>
    have hlives : ∀ x, (g.tasks x).isAlive = true → x ∈ s := fun x hx =>
      (hids x).mpr (h.planned x hx)
    have hdoomed : ∀ x ∈ g.doomed, (g.tasks x).isAlive = true → x = .root ∨ x ∈ g.queue :=
      fun x hx halive => .inr (h.mem_queue_of_doomed hx halive)
    exact Gathering.effort_review (h.closed hids) (hlives _ (by rw [htask]; rfl))
      TaskId.root_ne_outer htask (.inr stamina_ne_zero) (Gathering.effort_reaction
        (g := { g with called := false, left := stamina }) hlives hdoomed _)
  | fresh | asleep | yielded | ended =>
    unfold Gathering.review
    rw [show ({ g with called := false, left := stamina } : Gathering).tasks .root = _ from htask]

/-- Between two rounds, what is left to do becomes less. -/
theorem effort_turnRound_lt (h : Regular plan none [] g)
    (hcalls : g.called = true ∨ g.deferred ≠ []) :
    Gathering.effort s g.turnRound < Gathering.effort s g := by
  have hall : Regular plan none g.deferred { g with ran := 0, deferred := [] } := h.recallAll
  have hresumed := hall.effort_resumeAll hids
  have hbefore : Gathering.effort s { g with ran := 0, deferred := [] } +
      2 * g.deferred.length = Gathering.effort s g := by
    simp only [Gathering.effort, Gathering.effortOf, Gathering.toll, List.length_nil]
    omega
  have hregular := hall.resumeAll
  unfold Gathering.turnRound
  dsimp only
  split
  · rename_i hcalled
    have hreview := hregular.effort_review_root hids
    generalize g.deferred.foldl Gathering.resume { g with ran := 0, deferred := [] } = g₁ at *
    have hcall : Gathering.effort s { g₁ with called := false, left := stamina } + 1 =
        Gathering.effort s g₁ := by
      simp only [Gathering.effort, Gathering.effortOf, Gathering.toll, hcalled, Bool.toNat_true,
        Bool.toNat_false]
      omega
    omega
  · rename_i hcalled
    have hdeferred : g.deferred ≠ [] := hcalls.resolve_left fun hc =>
      hcalled (Gathering.called_resumeAll (g := { g with ran := 0, deferred := [] }) hc _)
    have := List.length_pos_iff.mpr hdeferred
    omega

/-- **Every step makes what is left to do less**, unless all is done. -/
theorem effort_step_lt (h : Regular plan none [] g) (hnot : ¬ g.Done) :
    Gathering.effort s g.step < Gathering.effort s g := by
  unfold Gathering.step
  split
  · rename_i hround
    refine h.effort_turnRound_lt hids ?_
    rw [Bool.and_eq_true] at hround
    simpa using hround.2
  · rename_i hround
    split
    · rename_i id rest hqueue
      exact h.effort_run_lt hids hqueue _
    · rename_i hqueue
      have hidle : g.called = false ∧ g.deferred = [] := by simpa [hqueue] using hround
      exact Gathering.effort_wait_lt (fun a ha => (h.alarm_spec ha).2.2.1) fun hnil =>
        hnot ⟨⟨hqueue, hidle.1, hidle.2⟩, hnil⟩

/-- After as many steps as it takes, all is done. -/
theorem done_steps (h : Regular plan none [] g) {n : Nat} (hn : Gathering.effort s g ≤ n) :
    (g.steps n).Done := by
  induction n generalizing g with
  | zero =>
    by_contra hnot
    have := h.effort_step_lt hids hnot
    omega
  | succ n ih =>
    by_cases hdone : g.Done
    · exact (Gathering.steps_of_done hdone (n + 1)).symm ▸ hdone
    · have := h.effort_step_lt hids hdone
      exact ih h.step (by omega)

end Step

/-- When all is done, all tasks have ended. -/
theorem ended_of_done (h : Regular plan none [] g) (hdone : g.Done) (x : TaskId) :
    (g.tasks x).isAlive = false := by
  rw [← Bool.not_eq_true]
  intro halive
  obtain ⟨⟨t, m⟩, hplan⟩ := Option.isSome_iff_exists.mp (h.planned x halive)
  obtain ⟨u, y, hu, -⟩ := h.exists_alarm hdone.1 hplan halive
  rw [hdone.2] at hu
  cases hu

end Regular

/-! ## The whole of a gathering -/

namespace Member

/-- There are only finitely many ways through the groups of an operation. -/
theorem finite_descend (p : Nat × Member) : {path | (descend p path).isSome = true}.Finite := by
  induction hn : sizeOf p.2 using Nat.strongRecOn generalizing p with
  | _ n ih =>
  subst hn
  have hsub : {path | (descend p path).isSome = true} ⊆ insert [] (⋃ i : Fin p.2.children.length,
      (i.val :: ·) '' {path | (descend (p.1 + p.2.delays.sum, p.2.children[i]) path).isSome = true}) := by
    rintro (_ | ⟨i, path⟩) hpath
    · exact Set.mem_insert _ _
    · refine Set.mem_insert_of_mem _ (Set.mem_iUnion.mpr ?_)
      rw [Set.mem_ofPred_eq, descend, childAt] at hpath
      cases hi : p.2.children[i]? with
      | none => rw [hi] at hpath; cases hpath
      | some m =>
        obtain ⟨hlt, rfl⟩ := List.getElem?_eq_some_iff.mp hi
        rw [hi] at hpath
        exact ⟨⟨i, hlt⟩, path, hpath, rfl⟩
  refine ((Set.finite_iUnion fun i => (ih _ ?_ _ rfl).image _).insert _).subset hsub
  exact sizeOf_lt_of_mem_children (List.getElem_mem _)

end Member

theorem finite_plan (members outside : List Member) :
    {x | (plan members outside x).isSome = true}.Finite := by
  have hfamily := fun (o : Bool) => (Member.finite_descend
    (0, .grouped [] (if o then outside else members) (.ok ()))).image (TaskId.mk o)
  refine ((hfamily false).union (hfamily true)).subset ?_
  rintro ⟨o, path⟩ hx
  cases o
  · exact .inl ⟨path, hx, rfl⟩
  · exact .inr ⟨path, hx, rfl⟩

namespace Gathering

/-- What is left to do at the beginning is the work of all tasks. -/
theorem effort_start (members outside : List Member) {s : Finset TaskId}
    (hids : ∀ x, x ∈ s ↔ (plan members outside x).isSome = true) :
    effort s (start members outside) ≤ Member.groupWork members + Member.groupWork outside := by
  have hplanned : ∀ {x i} {ms : List Member},
      plan members outside x = some (0, .grouped [] ms (.ok ())) →
      i < ms.length → x.child i ∈ s := fun {x i ms} hx hi => by
    rw [hids, plan_child, hx]
    simp [Member.childAt, Member.children, hi]
  have hroot : .root ∈ s := (hids _).mpr rfl
  unfold start
  dsimp only
  have houtside := effort_startAll (s := s) (g := {}) .outer 0 outside fun i hi => by
    rw [Nat.zero_add]
    exact hplanned (plan_outer members outside) hi
  have hzero : effort s {} = 0 := by
    simp [effort, effortOf, Task.isAlive]
  generalize ({} : Gathering).startAll .outer 0 outside = g₁ at *
  have hset := effort_set (g := g₁) hroot (.waiting (.ofSize members.length) (.ok ()))
  rw [effortOf_set_self _ rfl] at hset
  have hfree : (Task.waiting (.ofSize members.length) (.ok ())).remaining + g₁.toll .root = 0 := rfl
  have hmembers := effort_startAll (s := s)
    (g := g₁.set .root (.waiting (.ofSize members.length) (.ok ()))) .root 0 members fun i hi => by
      rw [Nat.zero_add]
      exact hplanned (plan_root members outside) hi
  have hreview := effort_review (fun x i hx => ?_) hroot TaskId.root_ne_outer
    (g₁.started .root members (.ok ())).tasks_self (.inl rfl)
    (Nat.le_of_eq (effort_reaction_ofSize _ _ _ _))
  · omega
  · exact (Regular.start members outside).closed hids x i hx

/-- **A gathering comes to its end**: all tasks have ended, and nothing is to happen. -/
theorem gather_done (members outside : List Member) : (gather members outside).Done := by
  obtain ⟨s, hids⟩ := (finite_plan members outside).exists_finset
  have heffort := effort_start members outside hids
  exact (Regular.start members outside).done_steps hids (heffort.trans (Nat.le_succ _))

theorem gather_ended (members outside : List Member) (x : TaskId) :
    ((gather members outside).tasks x).isAlive = false :=
  ((Regular.start members outside).steps _).ended_of_done (gather_done members outside) x

end Gathering

end DbLifecycle
