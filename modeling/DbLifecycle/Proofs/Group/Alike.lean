import DbLifecycle.Proofs.Group.Frame

/-!
# Gatherings side by side

Two gatherings in which some tasks do the same, though they may fail in another way.

* `Recast`: other endings for tasks that fail.
* `Family`: tasks that have to do with one another only.
* `Alike`, `Abreast`: two gatherings in which the tasks of a family have come equally far.
* `Abreast.review`, `Abreast.sleep`, `Abreast.drop`: what a task of the family does keeps them so.
* **`Abreast.run`**: a turn of a task of the family keeps them so.
-/

namespace DbLifecycle

/-- Other endings. A success stays one, and a failure stays one. -/
structure Recast where
  ending : Ending → Ending
  isOk : ∀ e, (ending e).isOk = e.isOk

namespace Recast

/-- All endings stay as they are. -/
def same : Recast := ⟨fun e => e, fun _ => rfl⟩

theorem ending_ok (c : Recast) (u : Unit) : c.ending (.ok u) = .ok () := by
  have hok := c.isOk (.ok u)
  cases h : c.ending (.ok u) with
  | ok => rfl
  | error | panic => rw [h] at hok; cases hok

/-- How the marks of tasks with other endings differ. -/
inductive Marks (c : Recast) : Mark → Mark → Prop
  | same (a : Mark) : Marks c a a
  | ended (e : Ending) : Marks c (.ofEnding e) (.ofEnding (c.ending e))
  | stopped (e : Ending) : Marks c (.ofStop e) (.ofStop (c.ending e))

/-- The marks come at the same times. -/
def Logs (c : Recast) : List (Nat × Mark) → List (Nat × Mark) → Prop :=
  List.Forall₂ fun a b => b.1 = a.1 ∧ c.Marks a.2 b.2

theorem Logs.refl (c : Recast) (l : List (Nat × Mark)) : c.Logs l l :=
  List.forall₂_same.mpr fun _ _ => ⟨rfl, .same _⟩

theorem Logs.append {c : Recast} {l l' k k' : List (Nat × Mark)} (h : c.Logs l l')
    (h' : c.Logs k k') : c.Logs (l ++ k) (l' ++ k') :=
  List.rel_append h h'

theorem Marks.eq {a b : Mark} (h : Recast.same.Marks a b) : b = a := by
  cases h <;> rfl

theorem Logs.eq {l k : List (Nat × Mark)} (h : Recast.same.Logs l k) : k = l := by
  induction h with
  | nil => rfl
  | cons hab _ ih => rw [ih, Prod.ext hab.1 hab.2.eq]

end Recast

/-! ## Operations and tasks with other endings -/

mutual

def Member.recast (c : Recast) : Member → Member
  | .plain ds e => .plain ds (c.ending e)
  | .grouped ds ms e => .grouped ds (Member.recastAll c ms) (c.ending e)

def Member.recastAll (c : Recast) : List Member → List Member
  | [] => []
  | m :: ms => Member.recast c m :: Member.recastAll c ms

end

def Crew.recast (c : Recast) (crew : Crew) : Crew := { crew with
  results := crew.results.map (Option.map c.ending)
  aside := crew.aside.map (Option.map c.ending)
  failure := crew.failure.map c.ending }

def Task.recast (c : Recast) : Task → Task
  | .fresh m => .fresh (m.recast c)
  | .asleep m => .asleep (m.recast c)
  | .yielded m => .yielded (m.recast c)
  | .waiting crew ending => .waiting (crew.recast c) (c.ending ending)
  | .ended => .ended

section Recast

variable (c : Recast)

namespace Member

theorem recastAll_eq_map (ms : List Member) : recastAll c ms = ms.map (recast c) := by
  induction ms with
  | nil => rfl
  | cons m ms ih => rw [recastAll, ih, List.map_cons]

@[simp]
theorem delays_recast (m : Member) : (m.recast c).delays = m.delays := by
  cases m <;> simp [recast, delays]

theorem withDelays_recast (m : Member) (ds : List Nat) :
    (m.recast c).withDelays ds = (m.withDelays ds).recast c := by
  cases m <;> simp [recast, withDelays]

mutual

theorem recast_same : (m : Member) → m.recast .same = m
  | plain _ _ => rfl
  | grouped ds ms e => congrArg (grouped ds · e) (recastAll_same ms)

theorem recastAll_same : (ms : List Member) → recastAll .same ms = ms
  | [] => rfl
  | m :: ms => congrArg₂ List.cons (recast_same m) (recastAll_same ms)

end

end Member

theorem Result.firstFailure_cons_of_not_isOk {e : Ending} (h : e.isOk = false)
    (results : List Result) : firstFailure (some e :: results) = some (e, results.length) := by
  cases e with
  | ok => cases h
  | error | panic => rfl

theorem Result.firstFailure_recast (results : List Result) :
    firstFailure (results.map (Option.map c.ending)) =
      (firstFailure results).map fun p => (c.ending p.1, p.2) := by
  induction results with
  | nil => rfl
  | cons r results ih =>
    cases r with
    | none => exact ih
    | some e =>
      rw [List.map_cons, Option.map_some]
      cases he : e.isOk with
      | true =>
        obtain ⟨u, rfl⟩ : ∃ u, e = .ok u := by
          cases e with
          | ok u => exact ⟨u, rfl⟩
          | error | panic => cases he
        rw [c.ending_ok]
        exact ih
      | false =>
        rw [firstFailure_cons_of_not_isOk he, firstFailure_cons_of_not_isOk ((c.isOk e).trans he)]
        simp

namespace Crew

variable (crew : Crew)

theorem take_recast (n : Nat) :
    (crew.recast c).take n = ((crew.take n).1.recast c, (crew.take n).2) := by
  have hfirst := Result.firstFailure_recast c (crew.results.take n)
  rw [List.map_take] at hfirst
  unfold take
  cases hfailure : crew.failure with
  | some e => simp [recast, hfailure]
  | none =>
    cases hresults : Result.firstFailure (crew.results.take n) with
    | none => simp [recast, hfailure, hfirst, hresults]
    | some p => simp [recast, hfailure, hfirst, hresults, size]

theorem look_recast (n : Nat) : (crew.recast c).look n = (crew.look n).recast c := by
  rw [look, take_recast]
  rfl

theorem size_recast : (crew.recast c).size = crew.size := by
  simp [size, recast]

theorem ending?_recast : (crew.recast c).ending? = crew.ending?.map c.ending := by
  unfold ending?
  rw [size_recast]
  split
  · cases hfailure : crew.failure with
    | none => simp [recast, hfailure, c.ending_ok]
    | some e => simp [recast, hfailure]
  · rfl

theorem setAside_recast : (crew.recast c).setAside = crew.setAside.recast c := by
  unfold setAside
  cases hresults : crew.results <;> simp [recast, hresults]

theorem callBack_recast : (crew.recast c).callBack = crew.callBack.recast c := by
  unfold callBack
  cases haside : crew.aside <;> simp [recast, haside]

theorem announce_recast (place : Nat) (r : Result) :
    (crew.recast c).announce place (r.map c.ending) = (crew.announce place r).recast c := by
  simp [announce, recast]

end Crew

@[simp]
theorem Task.isAlive_recast (t : Task) : (t.recast c).isAlive = t.isAlive := by
  cases t <;> rfl

@[simp]
theorem Task.running_recast (t : Task) : (t.recast c).running = t.running := by
  cases t <;> rfl

@[simp]
theorem Task.isUnderWay_recast (t : Task) : (t.recast c).isUnderWay = t.isUnderWay := by
  cases t <;> rfl

theorem Task.recast_same (t : Task) : t.recast .same = t := by
  have hcrew : ∀ crew : Crew, crew.recast .same = crew := fun crew => by
    have hmap : (Option.map Recast.same.ending : Result → Result) = fun r => r := by
      funext r
      cases r <;> rfl
    simp only [Crew.recast, hmap, List.map_id']
  cases t with
  | fresh m | asleep m | yielded m => simp only [recast, m.recast_same]
  | waiting crew ending => simp only [recast, hcrew]; rfl
  | ended => rfl

end Recast

/-! ## Side by side -/

/-- The tasks of groups of a family belong to it, and have their owners there, unless these stand
above all tasks outside. -/
structure Family (F : TaskId → Bool) : Prop where
  child : ∀ x i, F x = true → F (x.child i) = true
  owner : ∀ x i, F (x.child i) = true → F x = true ∨ x = .outer

namespace Gathering

/-- The tasks of a family have come equally far in two gatherings. -/
structure Alike (F : TaskId → Bool) (c : Recast) (g p : Gathering) : Prop where
  tasks : ∀ x, F x = true → p.tasks x = (g.tasks x).recast c
  queue : p.queue.filter F = g.queue.filter F
  doomed : ∀ x, F x = true → (x ∈ p.doomed ↔ x ∈ g.doomed)
  alarms : p.alarms.filter (F ·.2) = g.alarms.filter (F ·.2)
  deferred : p.deferred.filter F = g.deferred.filter F
  log : ∀ x, F x = true → c.Logs (g.log x) (p.log x)
  root : F .root = true → p.called = g.called ∧ p.ran = g.ran ∧
    p.returned = g.returned.map fun r => (r.1, c.ending r.2)
  outer : F .outer = true ∨ (g.tasks .outer).isAlive = false ∧ (p.tasks .outer).isAlive = false

/-- One of the tasks has its turn in both. -/
structure Abreast (F : TaskId → Bool) (c : Recast) (g p : Gathering) : Prop
    extends Alike F c g p where
  now : p.now = g.now
  left : p.left = g.left

variable {F : TaskId → Bool} {c : Recast} {g p : Gathering} {id : TaskId}

theorem Alike.refl (g : Gathering) (houter : F .outer = true ∨ (g.tasks .outer).isAlive = false) :
    Alike F .same g g where
  tasks x _ := (Task.recast_same _).symm
  queue := rfl
  doomed _ _ := Iff.rfl
  alarms := rfl
  deferred := rfl
  log x _ := .refl _ _
  root _ := ⟨rfl, rfl, by simp [Recast.same]⟩
  outer := houter.imp_right fun h => ⟨h, h⟩

theorem filter_enqueue_of_mem (q : List TaskId) (hid : F id = true) :
    (enqueue q id).filter F = enqueue (q.filter F) id := by
  unfold enqueue
  by_cases hmem : id ∈ q
  · rw [if_pos hmem, if_pos (List.mem_filter.mpr ⟨hmem, hid⟩)]
  · rw [if_neg hmem, if_neg fun h => hmem (List.mem_filter.mp h).1, List.filter_append]
    simp [hid]

namespace Abreast

/-! ### Records and changes -/

theorem record (h : Abreast F c g p) {es es' : List Entry}
    (hes : ∀ x, F x = true → c.Logs (marksOf x es) (marksOf x es')) :
    Abreast F c (g.record es) (p.record es') where
  tasks := by simpa using h.tasks
  queue := by simpa using h.queue
  doomed := by simpa using h.doomed
  alarms := by simpa using h.alarms
  deferred := by simpa using h.deferred
  log x hx := by
    rw [log_record, log_record]
    exact (h.log x hx).append (hes x hx)
  root := by
    rw [record_eq, record_eq]
    exact h.root
  outer := by simpa using h.outer
  now := by simpa using h.now
  left := by simpa using h.left

theorem mark (h : Abreast F c g p) {a b : Mark} (hmark : c.Marks a b) (id : TaskId) :
    Abreast F c (g.mark id a) (p.mark id b) := by
  refine h.record fun x _ => ?_
  by_cases hx : id = x
  · simp only [marksOf, Entry.about, List.filterMap_cons, if_pos hx, List.filterMap_nil]
    exact .cons ⟨h.now, hmark⟩ .nil
  · simp only [marksOf, Entry.about, List.filterMap_cons, if_neg hx, List.filterMap_nil]
    exact .nil

theorem set (h : Abreast F c g p) (hid : F id = true) (t : Task) :
    Abreast F c (g.set id t) (p.set id (t.recast c)) :=
  { h with
    tasks := fun x hx => by
      by_cases heq : x = id
      · rw [heq, set_self, set_self]
      · rw [set_of_ne _ heq, set_of_ne _ heq]
        exact h.tasks x hx
    outer := by
      by_cases heq : id = .outer
      · exact .inl (heq ▸ hid)
      · rw [set_of_ne _ (Ne.symm heq), set_of_ne _ (Ne.symm heq)]
        exact h.outer }

theorem wake (h : Abreast F c g p) (hid : F id = true) : Abreast F c (g.wake id) (p.wake id) := by
  rw [wake_eq, wake_eq]
  exact
  { h with
    queue := by
      dsimp only
      split
      · exact h.queue
      · rw [filter_enqueue_of_mem _ hid, filter_enqueue_of_mem _ hid, h.queue]
    root := fun hroot => by
      obtain ⟨hcalled, hrest⟩ := h.root hroot
      exact ⟨by rw [hcalled], hrest⟩ }

/-! ### Starting, cancelling and ending tasks -/

theorem startAll (h : Abreast F c g p) (hF : Family F) (hid : F id = true) (place : Nat)
    (ms : List Member) :
    Abreast F c (g.startAll id place ms) (p.startAll id place (Member.recastAll c ms)) := by
  induction ms generalizing g p place with
  | nil => exact h
  | cons m ms ih =>
    have hchild := hF.child id place hid
    exact ih ((h.set hchild (.fresh m)).wake hchild) (place + 1)

theorem abort (h : Abreast F c g p) (hid : F id = true) : Abreast F c (g.abort id) (p.abort id) := by
  have hdoom : Abreast F c { g with doomed := id :: g.doomed } { p with doomed := id :: p.doomed } :=
    { h with
      doomed := fun x hx => by
        rw [List.mem_cons, List.mem_cons, h.doomed x hx] }
  have htask := h.tasks id hid
  unfold Gathering.abort
  rw [htask]
  cases g.tasks id with
  | ended => exact h
  | fresh | asleep | yielded | waiting => exact hdoom.wake hid

theorem abortAll (h : Abreast F c g p) (hF : Family F) (hid : F id = true) (places : List Nat) :
    Abreast F c (g.abortAll id places) (p.abortAll id places) := by
  induction places generalizing g p with
  | nil => exact h
  | cons i places ih => exact ih (h.abort (hF.child id i hid))

theorem finish (h : Abreast F c g p) (hF : Family F) (hid : F id = true) (r : Result) :
    Abreast F c (g.finish id r) (p.finish id (r.map c.ending)) := by
  have hended := h.set hid .ended
  by_cases htop : id = .root ∨ id = .outer
  · rcases htop with rfl | rfl <;> exact hended
  obtain ⟨owner, place, rfl⟩ := TaskId.exists_child (fun heq => htop (.inl heq))
    fun heq => htop (.inr heq)
  -- an owner that is not of the family does not wait
  have hcases : F owner = true ∨
      (g.tasks owner).isAlive = false ∧ (p.tasks owner).isAlive = false := by
    rcases hF.owner owner place hid with howner | rfl
    · exact .inl howner
    · exact h.outer
  rcases hcases with howner | ⟨hdead, hdead'⟩
  · have htask := h.tasks owner howner
    cases hcase : g.tasks owner with
    | waiting crew ending =>
      rw [hcase] at htask
      have htold := hended.set howner (.waiting (crew.announce place r) ending)
      rw [finish_of_waiting g hcase, finish_of_waiting p htask]
      simp only [Task.recast, ← Crew.announce_recast] at htold ⊢
      have hwatched : (crew.recast c).watched = crew.watched := rfl
      rw [hwatched]
      split
      · exact htold.wake howner
      · exact htold
    | fresh | asleep | yielded | ended =>
      rw [hcase] at htask
      rw [finish_of_not_waiting g (by rw [hcase]; rfl), finish_of_not_waiting p (by rw [htask]; rfl)]
      exact hended
  · rw [finish_of_not_waiting g (by rw [Task.eq_ended hdead]; rfl),
      finish_of_not_waiting p (by rw [Task.eq_ended hdead']; rfl)]
    exact hended

theorem conclude (h : Abreast F c g p) (hF : Family F) (hid : F id = true) (e : Ending) :
    Abreast F c (g.conclude id e) (p.conclude id (c.ending e)) :=
  (h.mark (.ended e) id).finish hF hid (some e)

end Abreast

/-! ### Turns -/

/-- Until the outermost group returns, nothing is recorded for the time after that. -/
def Quiet (g : Gathering) : Prop := g.returned = none ∧ g.later = []

theorem Quiet.reaction (h : g.Quiet) (owner : TaskId) (look : Crew × Option Nat) :
    (g.reaction owner look).Quiet := by
  obtain ⟨-, -, -, -, -, hreturned, -⟩ := g.reaction_same owner look
  exact ⟨hreturned.trans h.1, (g.reaction_later owner look h.1).trans h.2⟩

namespace Abreast

theorem leave (h : Abreast F c g p) (hF : Family F) (hid : F id = true)
    (hquiet : id = .root → g.Quiet ∧ p.Quiet) (ending e : Ending) :
    Abreast F c (g.leave id ending e) (p.leave id (c.ending ending) (c.ending e)) := by
  by_cases hroot : id = .root
  · subst hroot
    obtain ⟨⟨hnone, hlater⟩, hnone', hlater'⟩ := hquiet rfl
    have hended := h.set hid .ended
    unfold Gathering.leave
    rw [if_pos rfl, if_pos rfl]
    exact
    { hended with
      log := fun x hx => by
        rw [log_return hnone hlater, log_return hnone' hlater']
        exact h.log x hx
      root := fun hroot => by
        obtain ⟨hcalled, hran, -⟩ := h.root hroot
        exact ⟨hcalled, hran, by rw [h.now]; rfl⟩ }
  · cases he : e.isOk with
    | true =>
      obtain rfl : e = .ok () := by
        cases e with
        | ok => rfl
        | error | panic => cases he
      rw [c.ending_ok]
      unfold Gathering.leave
      rw [if_neg hroot, if_neg hroot]
      exact (h.mark (.same _) id).conclude hF hid ending
    | false =>
      rw [leave_of_not_isOk g hroot he, leave_of_not_isOk p hroot ((c.isOk e).trans he)]
      exact (h.mark (.stopped e) id).finish hF hid (some e)

theorem reaction (h : Abreast F c g p) (hF : Family F) (hid : F id = true) (crew : Crew) (n : Nat) :
    Abreast F c (g.reaction id (crew.take n)) (p.reaction id ((crew.recast c).take n)) := by
  rw [Crew.take_recast]
  unfold Gathering.reaction
  dsimp only
  cases (crew.take n).2 with
  | some k =>
    have hrecorded : Abreast F c (g.record [.cancelling g.now k]) (p.record [.cancelling p.now k]) :=
      h.record fun _ _ => .nil
    exact hrecorded.abortAll hF hid _
  | none => exact h

theorem defer (h : Abreast F c g p) (hid : F id = true) (crew : Crew) (ending : Ending) :
    Abreast F c (g.defer id crew ending) (p.defer id (crew.recast c) (c.ending ending)) := by
  have hset := h.set hid (.waiting crew.setAside ending)
  unfold Gathering.defer
  rw [Crew.setAside_recast]
  refine wake ?_ hid
  exact
  { hset with
    deferred := by
      simp only [List.filter_cons, hid, if_true]
      exact congrArg _ h.deferred }

theorem review (h : Abreast F c g p) (hF : Family F) (hid : F id = true)
    (hquiet : id = .root → (g.tasks id).isAlive = true → g.Quiet ∧ p.Quiet) :
    Abreast F c (g.review id) (p.review id) := by
  have htask := h.tasks id hid
  cases hcase : g.tasks id with
  | waiting crew ending =>
    rw [hcase] at htask
    rw [g.review_of_waiting hcase, p.review_of_waiting htask, h.left]
    have hreaction := h.reaction hF hid crew g.left
    have hquiet' : id = .root → (g.reaction id (crew.take g.left)).Quiet ∧
        (p.reaction id ((crew.recast c).take g.left)).Quiet := fun hroot => by
      obtain ⟨hg, hp⟩ := hquiet hroot (by rw [hcase]; rfl)
      exact ⟨hg.reaction _ _, hp.reaction _ _⟩
    dsimp only
    rw [Crew.look_recast, Crew.ending?_recast]
    cases (crew.look g.left).ending? with
    | some e => exact hreaction.leave hF hid hquiet' ending e
    | none =>
      have hempty : ((crew.look g.left).recast c).results.isEmpty =
          (crew.look g.left).results.isEmpty := by
        simp [Crew.recast]
      dsimp only [Option.map_none]
      rw [hempty]
      split
      · exact hreaction.set hid _
      · exact hreaction.defer hid _ _
  | fresh | asleep | yielded | ended =>
    rw [hcase] at htask
    unfold Gathering.review
    rw [hcase, htask]
    exact h

theorem afterDelays (h : Abreast F c g p) (hF : Family F) (hid : F id = true) (hroot : id ≠ .root)
    (m : Member) : Abreast F c (g.afterDelays id m) (p.afterDelays id (m.recast c)) := by
  cases m with
  | plain ds e => exact h.conclude hF hid e
  | grouped ds ms e =>
    have hset := h.set hid (.waiting (.ofSize ms.length) e)
    have hsize : (Crew.ofSize ms.length).recast c = .ofSize (Member.recastAll c ms).length := by
      rw [Member.recastAll_eq_map, List.length_map]
      rfl
    simp only [Task.recast, hsize] at hset
    exact (hset.startAll hF hid 0 ms).review hF hid fun heq => absurd heq hroot

theorem tick (h : Abreast F c g p) (id : TaskId) :
    Abreast F c ({ g with left := g.left - 1 }.mark id .step)
      ({ p with left := p.left - 1 }.mark id .step) := by
  have hspent : Abreast F c { g with left := g.left - 1 } { p with left := p.left - 1 } :=
    { h with left := by rw [h.left] }
  exact hspent.mark (.same _) id

theorem sleep (h : Abreast F c g p) (hF : Family F) (hid : F id = true) (hroot : id ≠ .root)
    (m : Member) (ds : List Nat) : Abreast F c (g.sleep id m ds) (p.sleep id (m.recast c) ds) := by
  induction ds generalizing g p with
  | nil => exact h.afterDelays hF hid hroot m
  | cons d ds ih =>
    rw [Gathering.sleep, Gathering.sleep, Member.withDelays_recast, Member.withDelays_recast]
    by_cases hleft : g.left = 0
    · rw [if_pos hleft, if_pos (h.left.trans hleft)]
      have hset := h.set hid (.yielded (m.withDelays (d :: ds)))
      exact
      { hset with
        deferred := by
          simp only [List.filter_cons, hid, if_true]
          exact congrArg _ h.deferred }
    rw [if_neg hleft, if_neg fun hp => hleft (h.left.symm.trans hp)]
    split
    · exact ih (h.tick id)
    · have hset := h.set hid (.asleep (m.withDelays ds))
      exact
      { hset with
        alarms := by
          simp only [List.filter_append, h.now]
          exact congrArg (· ++ _) h.alarms }

theorem drop (h : Abreast F c g p) (hF : Family F) (hid : F id = true) :
    Abreast F c (g.drop id) (p.drop id) := by
  have hsilenced : ∀ {g p : Gathering}, Abreast F c g p → Abreast F c
      { g with alarms := g.alarms.filter (·.2 != id) }
      { p with alarms := p.alarms.filter (·.2 != id) } := fun {g p} h =>
    { h with
      alarms := by
        simp only [List.filter_filter, Bool.and_comm (F _)]
        rw [← List.filter_filter, ← List.filter_filter, h.alarms] }
  unfold Gathering.drop
  dsimp only
  rw [h.tasks id hid, Task.isUnderWay_recast, Task.running_recast]
  refine ((hsilenced ?_).abortAll hF hid _).finish hF hid none
  split
  · exact h.mark (.same _) id
  · exact h

/-- **A turn of a task** of the family keeps the gatherings side by side. -/
theorem run (h : Abreast F c g p) (hF : Family F) (hid : F id = true) (hroot : id ≠ .root) :
    Abreast F c (g.run id) (p.run id) := by
  unfold Gathering.run
  rw [h.tasks id hid]
  simp only [h.doomed id hid]
  split
  · exact h.drop hF hid
  cases g.tasks id with
  | fresh m =>
    simp only [Task.recast, Member.delays_recast]
    exact (h.mark (.same _) id).sleep hF hid hroot m m.delays
  | asleep m =>
    simp only [Task.recast, Member.delays_recast]
    exact (h.tick id).sleep hF hid hroot m m.delays
  | yielded m =>
    simp only [Task.recast, Member.delays_recast]
    exact h.sleep hF hid hroot m m.delays
  | waiting crew ending => exact h.review hF hid fun heq => absurd heq hroot
  | ended => exact h

theorem resume (h : Abreast F c g p) (hid : F id = true) :
    Abreast F c (g.resume id) (p.resume id) := by
  unfold Gathering.resume
  rw [h.tasks id hid]
  cases g.tasks id with
  | yielded m => exact h.wake hid
  | waiting crew ending =>
    have hset := h.set hid (.waiting crew.callBack ending)
    simp only [Task.recast, ← Crew.callBack_recast] at hset ⊢
    have hwatched : (crew.recast c).watched = crew.watched := rfl
    rw [hwatched]
    split
    · exact hset.wake hid
    · exact hset
  | fresh | asleep | ended => exact h

end Abreast

end Gathering

end DbLifecycle
