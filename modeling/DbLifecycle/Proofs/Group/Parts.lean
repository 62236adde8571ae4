import Mathlib.Logic.Relation
import DbLifecycle.Proofs.Group.Frame

/-!
# The parts of a turn

What a task does in its turn is made of few kinds of changes. What all of them leave alone, a turn
leaves alone.

* `Gathering.Part`: the kinds of changes.
* `Gathering.Turn`: changes one after another.
* `Turn.review`, `Turn.sleep`, `Turn.drop`: that what a task can do consists of them.
* **`Turn.run`**: a turn of any task does.
-/

namespace DbLifecycle

namespace Gathering

/-- A change that a task can make: to itself, to the tasks of its group, or to what their owner
knows of it. -/
inductive Part (id : TaskId) (g : Gathering) : Gathering → Prop
  /-- It records what happens to it, if it has not ended. -/
  | record {es : List Entry} (h : ∀ t x what, .mark t x what ∈ es →
      t = g.now ∧ x = id ∧ (g.tasks id).isAlive = true) : Part id g (g.record es)
  | set {t : Task} (h : t.isAlive = true → (g.tasks id).isAlive = true) : Part id g (g.set id t)
  | tell {owner : TaskId} {place : Nat} {crew : Crew} {ending : Ending}
      (hparent : id.parent? = some (owner, place)) (htask : g.tasks owner = .waiting crew ending)
      (crew' : Crew) : Part id g (g.set owner (.waiting crew' ending))
  | wake {x : TaskId} (h : x = id ∨ (∃ place, id.parent? = some (x, place)) ∧
      (g.tasks x).isAlive = true) : Part id g (g.wake x)
  | startAll (h : (g.tasks id).isAlive = true) (ms : List Member) : Part id g (g.startAll id 0 ms)
  | abortAll (places : List Nat) : Part id g (g.abortAll id places)
  /-- Its own alarms and its giving way, and how much it can still do. -/
  | reschedule {alarms : List (Nat × TaskId)} {deferred : List TaskId}
      (halarms : alarms.filter (·.2 != id) = g.alarms.filter (·.2 != id))
      (hdeferred : deferred = g.deferred ∨ deferred = id :: g.deferred) (left : Nat) :
      Part id g { g with alarms, deferred, left }

/-- Changes that a task makes one after another. -/
abbrev Turn (id : TaskId) : Gathering → Gathering → Prop := Relation.ReflTransGen (Part id)

namespace Turn

open Relation.ReflTransGen (refl single)

variable {g : Gathering} {id : TaskId}

theorem mark (halive : (g.tasks id).isAlive = true) (what : Mark) :
    Turn id g (g.mark id what) := by
  refine single (.record fun t x w hmem => ?_)
  cases List.mem_singleton.mp hmem
  exact ⟨rfl, rfl, halive⟩

theorem set {t : Task} (h : t.isAlive = true → (g.tasks id).isAlive = true) :
    Turn id g (g.set id t) := single (.set h)

theorem wake_self (g : Gathering) (id : TaskId) : Turn id g (g.wake id) := single (.wake (.inl rfl))

/-- The task gives way. -/
theorem defer (g : Gathering) (id : TaskId) : Turn id g { g with deferred := id :: g.deferred } :=
  single (.reschedule rfl (.inr rfl) g.left)

theorem finish (g : Gathering) (id : TaskId) (r : Result) : Turn id g (g.finish id r) := by
  have hended : Turn id g (g.set id .ended) := set nofun
  unfold Gathering.finish
  dsimp only
  split
  · exact hended
  rename_i owner place hparent
  split
  · rename_i crew ending htask
    have htold : Turn id g
        ((g.set id .ended).set owner (.waiting (crew.announce place r) ending)) :=
      hended.tail (.tell hparent htask _)
    split
    · exact htold.tail (.wake (.inr ⟨⟨place, hparent⟩, by rw [set_self]; rfl⟩))
    · exact htold
  · exact hended

theorem conclude (halive : (g.tasks id).isAlive = true) (e : Ending) :
    Turn id g (g.conclude id e) :=
  (mark halive _).trans (finish _ _ _)

/-- The group of a task ends, and it is not the outermost one. -/
theorem leave (halive : (g.tasks id).isAlive = true) (hroot : id ≠ .root) (ending e : Ending) :
    Turn id g (g.leave id ending e) := by
  unfold Gathering.leave
  rw [if_neg hroot]
  split
  · exact (mark halive _).trans (conclude (by rwa [mark_tasks]) _)
  · exact (mark halive _).trans (finish _ _ _)

theorem reaction (g : Gathering) (id : TaskId) (look : Crew × Option Nat) :
    Turn id g (g.reaction id look) := by
  unfold Gathering.reaction
  split
  · refine .tail (single (.record fun t x what hmem => ?_)) (.abortAll _)
    cases List.mem_singleton.mp hmem
  · exact refl

/-- The owner of a group looks at its results. The outermost group may return. -/
theorem review (g : Gathering) (id : TaskId) : Turn id g (g.review id) ∨ id = .root ∧
    ∃ g₁ e, Turn .root g g₁ ∧ (g₁.tasks .root).isAlive = true ∧
      g.review id = { g₁.set .root .ended with returned := some (g₁.now, e) } := by
  cases htask : g.tasks id with
  | waiting crew ending =>
    have hreaction := reaction g id (crew.take g.left)
    have htask₁ : (g.reaction id (crew.take g.left)).tasks id = .waiting crew ending :=
      (congrFun (g.reaction_same id _).2.1 id).trans htask
    rw [g.review_of_waiting htask]
    dsimp only
    generalize g.reaction id (crew.take g.left) = g₁ at *
    have halive : (g₁.tasks id).isAlive = true := by rw [htask₁]; rfl
    split
    · by_cases hroot : id = .root
      · subst hroot
        exact .inr ⟨rfl, g₁, _, hreaction, halive, if_pos rfl⟩
      · exact .inl (hreaction.trans (leave halive hroot _ _))
    split
    · exact .inl (hreaction.trans (set fun _ => halive))
    · exact .inl (hreaction.trans ((set fun _ => halive).trans
        ((defer (g₁.set id _) id).trans (wake_self _ _))))
  | fresh | asleep | yielded | ended =>
    unfold Gathering.review
    rw [htask]
    exact .inl refl

theorem afterDelays (halive : (g.tasks id).isAlive = true) (hroot : id ≠ .root) (m : Member) :
    Turn id g (g.afterDelays id m) := by
  cases m with
  | plain ds e => exact conclude halive e
  | grouped ds ms e =>
    have hset : Turn id g (g.set id (.waiting (.ofSize ms.length) e)) := set fun _ => halive
    have hstarted := hset.tail (.startAll (by rw [g.set_self]; rfl) ms)
    exact hstarted.trans ((review _ _).resolve_right fun h => hroot h.1)

/-- The mark of a delay that is over. -/
theorem tick (halive : (g.tasks id).isAlive = true) :
    Turn id g ({ g with left := g.left - 1 }.mark id .step) := by
  have hspent : Turn id g { g with left := g.left - 1 } :=
    single (.reschedule rfl (.inl rfl) (g.left - 1))
  exact hspent.trans (mark (g := { g with left := g.left - 1 }) halive .step)

theorem sleep (halive : (g.tasks id).isAlive = true) (hroot : id ≠ .root) (m : Member)
    (ds : List Nat) : Turn id g (g.sleep id m ds) := by
  induction ds generalizing g with
  | nil => exact afterDelays halive hroot m
  | cons d ds ih =>
    rw [Gathering.sleep]
    split
    · exact (set fun _ => halive).trans (defer (g.set id (.yielded (m.withDelays (d :: ds)))) id)
    split
    · exact (tick halive).trans (ih (by rwa [mark_tasks]))
    · exact (set fun _ => halive).tail (.reschedule (by simp [Gathering.set]) (.inl rfl) _)

theorem drop (halive : (g.tasks id).isAlive = true) : Turn id g (g.drop id) := by
  unfold Gathering.drop
  dsimp only
  have hsilenced : ∀ g : Gathering, Turn id g { g with alarms := g.alarms.filter (·.2 != id) } :=
    fun g => single (.reschedule (by simp) (.inl rfl) g.left)
  refine .trans ?_ (.trans (single (.abortAll _)) (finish _ _ _))
  split
  · exact (mark halive .cancelled).trans (hsilenced _)
  · exact hsilenced g

/-- **A turn of a task** consists of such changes. -/
theorem run (halive : (g.tasks id).isAlive = true) (hroot : id ≠ .root) :
    Turn id g (g.run id) := by
  have hmarked : ∀ {g : Gathering} {what : Mark}, (g.tasks id).isAlive = true →
      ((g.mark id what).tasks id).isAlive = true := fun halive => by
    rwa [mark_tasks]
  unfold Gathering.run
  split
  · exact drop halive
  split
  · exact (mark halive .start).trans (sleep (hmarked halive) hroot _ _)
  · exact (tick halive).trans
      (sleep (hmarked (g := { g with left := g.left - 1 }) halive) hroot _ _)
  · exact sleep halive hroot _ _
  · exact (review g id).resolve_right fun h => hroot h.1
  · exact refl

theorem resume (g : Gathering) (id : TaskId) : Turn id g (g.resume id) := by
  unfold Gathering.resume
  split
  · exact wake_self g id
  · rename_i crew ending htask
    have hset : Turn id g (g.set id (.waiting crew.callBack ending)) :=
      set fun _ => by rw [htask]; rfl
    dsimp only
    split
    · exact hset.trans (wake_self _ _)
    · exact hset
  · exact refl

end Turn

end Gathering

end DbLifecycle
