import DbLifecycle.Proofs.Group.Race

/-!
# How a race ends

The owner of a race looks at the results that have come in. When all members have succeeded, it
returns; when one of them has failed, it calls the race off: all members that have not ended are
cancelled, and each of them ends when its turn comes.

* `Result.firstFailure_pending`: the failure that surfaces is the first one in the records.
* `Joined`, `CalledOff`: what holds when all members have succeeded, and when one has failed.
* `CalledOff.step`: a race that is called off stays so.
* `Racing.review`: what comes of a look at the results.
-/

namespace DbLifecycle

/-! ## Looks -/

/-- The first failure among the results of some members. -/
theorem Result.firstFailure_pending (ms : List Member) (pending : List Nat) :
    match Result.firstFailure (pending.map fun i => some (endingAt ms i)) with
    | none => ∀ i ∈ pending, (endingAt ms i).isOk = true
    | some (e, behind) => ∃ before i after, pending = before ++ i :: after ∧
        (∀ j ∈ before, (endingAt ms j).isOk = true) ∧ endingAt ms i = e ∧ e.isOk = false ∧
        behind = after.length := by
  induction pending with
  | nil => exact nofun
  | cons i pending ih =>
    have hbad : ∀ e, endingAt ms i = e → e.isOk = false → Result.firstFailure
        ((i :: pending).map fun i => some (endingAt ms i)) = some (e, pending.length) := by
      rintro e rfl he
      rw [List.map_cons]
      cases hending : endingAt ms i with
      | ok => rw [hending] at he; cases he
      | error | panic => rw [Result.firstFailure, List.length_map]; simp
    cases hok : (endingAt ms i).isOk with
    | false =>
      rw [hbad _ rfl hok]
      exact ⟨[], i, pending, rfl, nofun, rfl, hok, rfl⟩
    | true =>
      have hskip : Result.firstFailure ((i :: pending).map fun i => some (endingAt ms i)) =
          Result.firstFailure (pending.map fun i => some (endingAt ms i)) := by
        rw [List.map_cons]
        cases hending : endingAt ms i with
        | ok => rw [Result.firstFailure]
        | error | panic => rw [hending] at hok; cases hok
      rw [hskip]
      split at ih
      · exact fun j hj => (List.mem_cons.mp hj).elim (fun heq => heq ▸ hok) (ih j)
      · obtain ⟨before, j, after, rfl, hbefore, hrest⟩ := ih
        exact ⟨i :: before, j, after, rfl, fun k hk =>
          (List.mem_cons.mp hk).elim (fun heq => heq ▸ hok) (hbefore k), hrest⟩

namespace Crew

variable {c : Crew} {n : Nat}

section Take

variable (hlength : c.results.length ≤ n) (hfailure : c.failure = none)
include hlength hfailure

/-- A look at all results, when all are good. -/
theorem take_of_good (hgood : Result.firstFailure c.results = none) :
    c.take n = ({ c with results := [] }, none) := by
  unfold take
  rw [List.take_of_length_le hlength, List.drop_eq_nil_of_le hlength, hfailure, hgood]

/-- A look at all results, when there is a failure. -/
theorem take_of_bad {e : Ending} {behind : Nat}
    (hbad : Result.firstFailure c.results = some (e, behind)) :
    c.take n = ({ c with results := [], failure := some e },
      some (behind + (c.running.length + c.aside.length))) := by
  unfold take
  rw [List.take_of_length_le hlength, List.drop_eq_nil_of_le hlength, hfailure, hbad]
  rfl

end Take

/-- An owner that has seen a failure takes no more notice of others. -/
theorem take_of_failure {e : Ending} (hfailure : c.failure = some e) (n : Nat) :
    (c.take n).2 = none ∧ (c.take n).1.failure = some e := by
  unfold take
  rw [hfailure]
  exact ⟨rfl, rfl⟩

theorem setAside_failure : c.setAside.failure = c.failure := by
  unfold setAside
  split <;> rfl

end Crew

namespace Gathering

variable {g : Gathering}

/-- The owner of the outermost group looks at its results, and none are left: it returns when there
are no more to come, or waits on. -/
theorem review_cases {crew : Crew} {ending : Ending} (htask : g.tasks .root = .waiting crew ending)
    (hresults : (crew.look g.left).results = []) :
    (crew.look g.left).size = 0 ∧ g.review .root = (g.reaction .root (crew.take g.left)).leave .root
        ending ((crew.look g.left).failure.getD (.ok ())) ∨
      g.review .root =
        (g.reaction .root (crew.take g.left)).set .root (.waiting (crew.look g.left) ending) := by
  rw [g.review_of_waiting htask]
  dsimp only
  split
  · rename_i e hending
    unfold Crew.ending? at hending
    split at hending
    · rename_i hzero
      rw [Option.some.inj hending]
      exact .inl ⟨hzero, rfl⟩
    · cases hending
  · rw [if_pos (by rw [hresults]; rfl)]
    exact .inr rfl

/-- The mark that a member is cancelled, if it has begun. -/
theorem cancelled_eq (hnone : g.returned = none) (id : TaskId) : ∃ entries,
    (if (g.tasks id).isUnderWay then g.mark id .cancelled else g) = { g with entries } ∧
    ({ g with entries } : Gathering).log id =
      g.log id ++ (if (g.tasks id).isUnderWay then [(g.now, .cancelled)] else []) ∧
    (∀ x, x ≠ id → ({ g with entries } : Gathering).log x = g.log x) ∧
    arrivals entries = arrivals g.entries ∧ cancellings entries = cancellings g.entries := by
  split
  · have hmark := mark_eq hnone id .cancelled
    refine ⟨_, hmark, ?_, fun x hx => ?_, ?_, cancellings_mark _ _ _ _⟩
    · rw [← hmark]
      exact g.log_mark_self id .cancelled
    · rw [← hmark]
      exact log_mark_of_ne hx _
    · exact (arrivals_mark _ _ _ _).trans (List.append_nil _)
  · exact ⟨g.entries, rfl, (List.append_nil _).symm, fun _ _ => rfl, rfl, rfl⟩

/-- Members that gave way are called back. -/
theorem resumeAll_of_not_waiting {ids : List TaskId}
    (h : ∀ x ∈ ids, x ≠ .root ∧ (g.tasks x).isWaiting = false) :
    ∃ queue, ids.foldl resume g = { g with queue } ∧ g.queue ⊆ queue := by
  induction ids generalizing g with
  | nil => exact ⟨g.queue, rfl, List.Subset.refl _⟩
  | cons id ids ih =>
    obtain ⟨hroot, hwaiting⟩ := h id List.mem_cons_self
    have hone : ∃ queue, g.resume id = { g with queue } ∧ g.queue ⊆ queue := by
      unfold resume
      split
      · exact ⟨_, g.wake_of_ne_root hroot, fun x hx => mem_enqueue.mpr (.inl hx)⟩
      · rename_i htask
        rw [htask] at hwaiting
        cases hwaiting
      · exact ⟨g.queue, rfl, List.Subset.refl _⟩
    obtain ⟨queue, heq, hsub⟩ := hone
    obtain ⟨queue', heq', hsub'⟩ := ih (g := g.resume id) fun x hx => by
      rw [heq]
      exact h x (List.mem_cons_of_mem _ hx)
    refine ⟨queue', ?_, fun x hx => hsub' ?_⟩
    · rw [List.foldl_cons, heq', heq]
    · rw [heq]
      exact hsub hx

/-- When all tasks have ended, nothing happens any more. -/
theorem step_of_ended (hended : ∀ x, (g.tasks x).isAlive = false) (hqueue : g.queue = [])
    (halarms : g.alarms = []) : ∃ called ran left deferred,
      g.step = { g with called, ran, left, deferred } := by
  have htask : ∀ x, g.tasks x = .ended := fun x => Task.eq_ended (hended x)
  have hresume : ∀ (ids : List TaskId) (g' : Gathering), (∀ x, g'.tasks x = .ended) →
      ids.foldl resume g' = g' := by
    intro ids
    induction ids with
    | nil => exact fun _ _ => rfl
    | cons id ids ih =>
      intro g' htask'
      have hone : g'.resume id = g' := by
        unfold resume
        rw [htask' id]
      rw [List.foldl_cons, hone]
      exact ih g' htask'
  have hresumed := hresume g.deferred { g with ran := 0, deferred := [] } htask
  unfold step
  split
  · unfold turnRound
    dsimp only
    rw [hresumed]
    split
    · unfold review
      rw [show ({ g with ran := 0, deferred := [], called := false, left := stamina } :
        Gathering).tasks .root = .ended from htask .root]
      exact ⟨_, _, _, _, rfl⟩
    · exact ⟨_, _, _, _, rfl⟩
  · split
    · rename_i heq
      rw [hqueue] at heq
      cases heq
    · have hnone : earliest g.alarms = none := by
        rw [halarms]
        rfl
      unfold wait
      rw [hnone]
      exact ⟨g.called, g.ran, g.left, g.deferred, rfl⟩

end Gathering

/-! ## Races that are called off -/

/-- What holds of a race that its owner has called off in the state `g₀`, for the failure `e`, when
it left `n` results behind. -/
structure CalledOff (ms : List Member) (g₀ : Gathering) (e : Ending) (n : Nat) (g : Gathering) :
    Prop where
  now : g.now = g₀.now
  owner : g.returned = none ∧
      (∃ crew, g.tasks .root = .waiting crew (.ok ()) ∧ crew.failure = some e) ∨
    g.returned = some (g₀.now, e)
  /-- A member that has not ended is to be cancelled, unless it has been. -/
  members : ∀ i m, ms[i]? = some m →
    g.tasks (.at i) = g₀.tasks (.at i) ∧ g.log (.at i) = g₀.log (.at i) ∧
      ((g₀.tasks (.at i)).isAlive = true → .at i ∈ g.doomed) ∨
    (g₀.tasks (.at i)).isAlive = true ∧ g.tasks (.at i) = .ended ∧
      g.log (.at i) = g₀.log (.at i) ++
        if (g₀.tasks (.at i)).isUnderWay then [(g₀.now, .cancelled)] else []
  arrivals : arrivals g.entries = arrivals g₀.entries
  cancellings : cancellings g.entries = [(g₀.now, n)]
  later : g.later = []

/-- What holds of a race whose members have all succeeded. -/
structure Joined (ms : List Member) (g : Gathering) : Prop where
  returned : ∃ t, g.returned = some (t, .ok ())
  members : ∀ i m, ms[i]? = some m → g.log (.at i) = m.story 0 m.ending
  cancellings : cancellings g.entries = []
  later : g.later = []

section Steps

open Gathering

variable {ms : List Member} {g₀ g : Gathering} {e : Ending} {n : Nat}

namespace Regular

variable (hflat : ∀ m ∈ ms, m.isFlat = true)
include hflat

/-- When the outermost group has returned, all members have ended. -/
theorem ended_of_returned (h : Regular (plan ms []) none [] g) (hreturned : g.returned ≠ none)
    (x : TaskId) : (g.tasks x).isAlive = false := by
  have hroot : (g.tasks .root).isAlive = false := by
    rw [← Bool.not_eq_true, h.root_isAlive]
    exact hreturned
  rw [← Bool.not_eq_true]
  intro halive
  obtain ⟨i, m, -, rfl⟩ := h.exists_at hflat halive fun heq => by
    rw [heq, hroot] at halive
    cases halive
  rcases (h.linked .root i halive).resolve_left TaskId.root_ne_outer with
    ⟨crew, ending, htask, -⟩ | ⟨-, -, hdoomed, -⟩
  · rw [htask] at hroot
    cases hroot
  · exact h.root.2.1 hdoomed

/-- After the return, nothing happens any more. -/
theorem step_of_returned (h : Regular (plan ms []) none [] g) (hreturned : g.returned ≠ none) :
    ∃ called ran left deferred, g.step = { g with called, ran, left, deferred } := by
  have hended := h.ended_of_returned hflat hreturned
  refine step_of_ended hended ?_ ?_
  · refine List.eq_nil_iff_forall_not_mem.mpr fun x hx => ?_
    have halive := h.queued x hx
    rw [hended x] at halive
    cases halive
  · refine List.eq_nil_iff_forall_not_mem.mpr fun a ha => ?_
    have halive := (h.alarm_spec (u := a.1) (x := a.2) ha).2.1
    rw [hended a.2] at halive
    cases halive

end Regular

theorem Joined.step (h : Joined ms g) (hflat : ∀ m ∈ ms, m.isFlat = true)
    (hregular : Regular (plan ms []) none [] g) : Joined ms g.step := by
  obtain ⟨t, ht⟩ := h.returned
  obtain ⟨called, ran, left, deferred, heq⟩ :=
    hregular.step_of_returned hflat (by rw [ht]; exact nofun)
  rw [heq]
  exact ⟨⟨t, ht⟩, h.members, h.cancellings, h.later⟩

namespace CalledOff

/-- Until the group returns, its owner waits and knows of the failure. -/
theorem waiting (h : CalledOff ms g₀ e n g) (hnone : g.returned = none) :
    ∃ crew, g.tasks .root = .waiting crew (.ok ()) ∧ crew.failure = some e := by
  rcases h.owner with ⟨-, hwaiting⟩ | hsome
  · exact hwaiting
  · rw [hnone] at hsome
    cases hsome

/-- The queue, and who is to be called back, are another matter. -/
theorem reschedule (h : CalledOff ms g₀ e n g) (queue : List TaskId) (called : Bool)
    (ran left : Nat) (deferred : List TaskId) :
    CalledOff ms g₀ e n { g with queue, called, ran, left, deferred } :=
  ⟨h.now, h.owner, h.members, h.arrivals, h.cancellings, h.later⟩

/-- So is what the owner knows, apart from the failure. -/
theorem set_owner (h : CalledOff ms g₀ e n g) (hnone : g.returned = none) {crew : Crew}
    (hfailure : crew.failure = some e) :
    CalledOff ms g₀ e n (g.set .root (.waiting crew (.ok ()))) where
  now := h.now
  owner := .inl ⟨hnone, crew, g.set_self _ _, hfailure⟩
  members i m hm := by
    rw [g.set_of_ne (TaskId.child_ne_root _ i)]
    exact h.members i m hm
  arrivals := h.arrivals
  cancellings := h.cancellings
  later := h.later

theorem wake (h : CalledOff ms g₀ e n g) (id : TaskId) : CalledOff ms g₀ e n (g.wake id) := by
  rw [wake_eq]
  exact h.reschedule _ _ g.ran g.left g.deferred

variable (hplain : ∀ i m, ms[i]? = some m → (g₀.tasks (.at i)).isWaiting = false)

section Plain

include hplain

/-- Only the owner waits. -/
theorem isWaiting (h : CalledOff ms g₀ e n g) {i : Nat} {m : Member} (hm : ms[i]? = some m) :
    (g.tasks (.at i)).isWaiting = false := by
  rcases h.members i m hm with ⟨heq, -⟩ | ⟨-, heq, -⟩
  · rw [heq]
    exact hplain i m hm
  · rw [heq]
    rfl

/-- Somebody is called back. -/
theorem resume (h : CalledOff ms g₀ e n g) (hnone : g.returned = none) (id : TaskId) :
    CalledOff ms g₀ e n (g.resume id) ∧ (g.resume id).returned = none := by
  unfold Gathering.resume
  split
  · exact ⟨h.wake id, by rwa [wake_returned]⟩
  · rename_i crew ending htask
    have hset : CalledOff ms g₀ e n (g.set id (.waiting crew.callBack ending)) := by
      by_cases hroot : id = .root
      · subst hroot
        obtain ⟨crew', htask', hfailure⟩ := h.waiting hnone
        rw [htask] at htask'
        cases htask'
        exact h.set_owner hnone (by rwa [Crew.callBack_failure])
      · refine ⟨h.now, ?_, fun i m hm => ?_, h.arrivals, h.cancellings, h.later⟩
        · rw [g.set_of_ne (Ne.symm hroot)]
          exact h.owner
        · have hne : TaskId.at i ≠ id := fun heq => by
            have hwaiting := h.isWaiting hplain hm
            rw [heq, htask] at hwaiting
            cases hwaiting
          rw [g.set_of_ne hne]
          exact h.members i m hm
    dsimp only
    split
    · exact ⟨hset.wake id, by rw [wake_returned]; exact hnone⟩
    · exact ⟨hset, hnone⟩
  · exact ⟨h, hnone⟩

theorem resumeAll (h : CalledOff ms g₀ e n g) (hnone : g.returned = none) (ids : List TaskId) :
    CalledOff ms g₀ e n (ids.foldl Gathering.resume g) ∧
      (ids.foldl Gathering.resume g).returned = none := by
  induction ids generalizing g with
  | nil => exact ⟨h, hnone⟩
  | cons id ids ih =>
    obtain ⟨hone, hnone'⟩ := h.resume hplain hnone id
    exact ih hone hnone'

end Plain

/-- The owner returns with the failure. -/
theorem leave {t : Task} (h : CalledOff ms g₀ e n (g.set .root t)) (hnone : g.returned = none)
    {ending : Ending} : CalledOff ms g₀ e n (g.leave .root ending e) := by
  unfold Gathering.leave
  rw [if_pos rfl]
  refine ⟨h.now, .inr (congrArg (fun t => some (t, e)) h.now), fun i m hm => ?_, h.arrivals,
    h.cancellings, h.later⟩
  have hlog : ({ g.set .root .ended with returned := some (g.now, e) } : Gathering).log (.at i) =
      (g.set .root t).log (.at i) := log_return hnone h.later (.at i)
  have htask : (g.set .root .ended).tasks (.at i) = (g.set .root t).tasks (.at i) := by
    rw [g.set_of_ne (TaskId.child_ne_root _ i), g.set_of_ne (TaskId.child_ne_root _ i)]
  rw [hlog]
  exact (h.members i m hm).imp (And.imp_left htask.trans) (And.imp_right (And.imp_left htask.trans))

/-- The owner looks at its results, and returns when there are no more to come. -/
theorem review (h : CalledOff ms g₀ e n g) (hnone : g.returned = none) :
    CalledOff ms g₀ e n (g.review .root) := by
  obtain ⟨crew, htask, hfailure⟩ := h.waiting hnone
  obtain ⟨hquiet, hkept⟩ := Crew.take_of_failure hfailure g.left
  have hreaction : g.reaction .root (crew.take g.left) = g := by
    unfold reaction
    rw [hquiet]
  have hlook : (crew.look g.left).failure = some e := hkept
  rw [g.review_of_waiting htask]
  dsimp only
  rw [hreaction]
  split
  · rename_i e' hending
    have he : e' = e := by
      unfold Crew.ending? at hending
      split at hending
      · rw [hlook] at hending
        exact (Option.some.inj hending).symm
      · cases hending
    subst he
    exact (h.set_owner hnone hlook).leave hnone
  · split
    · exact h.set_owner hnone hlook
    · have hset : CalledOff ms g₀ e n
          (g.set .root (.waiting (crew.look g.left).setAside (.ok ()))) :=
        h.set_owner hnone (by rwa [Crew.setAside_failure])
      exact (hset.reschedule _ _ g.ran g.left (.root :: g.deferred)).wake .root

/-- The owner calls those back that gave way, and looks at its results. -/
theorem turnRound (hplain : ∀ i m, ms[i]? = some m → (g₀.tasks (.at i)).isWaiting = false)
    (h : CalledOff ms g₀ e n g) (hnone : g.returned = none) :
    CalledOff ms g₀ e n g.turnRound := by
  obtain ⟨hresumed, hnone'⟩ := (h.reschedule g.queue g.called 0 g.left []).resumeAll hplain hnone
    g.deferred
  unfold Gathering.turnRound
  dsimp only
  generalize List.foldl Gathering.resume _ g.deferred = g₁ at *
  split
  · exact (hresumed.reschedule g₁.queue false g₁.ran stamina g₁.deferred).review hnone'
  · exact hresumed

/-- The turn of a member that is to be cancelled. -/
theorem drop (hplain : ∀ i m, ms[i]? = some m → (g₀.tasks (.at i)).isWaiting = false)
    (h : CalledOff ms g₀ e n g) (hnone : g.returned = none) {i : Nat} {m : Member}
    (hm : ms[i]? = some m) (halive : (g.tasks (.at i)).isAlive = true) :
    CalledOff ms g₀ e n (g.drop (.at i)) := by
  obtain ⟨htask, hlog, -⟩ := (h.members i m hm).resolve_right fun hended => by
    rw [hended.2.1] at halive
    cases halive
  have hwaiting := h.isWaiting hplain hm
  have hrunning : (g.tasks (.at i)).running = [] := by
    cases ht : g.tasks (.at i) with
    | waiting => rw [ht] at hwaiting; cases hwaiting
    | fresh | asleep | yielded | ended => rfl
  obtain ⟨crew, howner, hfailure⟩ := h.waiting hnone
  obtain ⟨entries, hmark, hself, hother, harrivals, hcancellings⟩ := cancelled_eq hnone (.at i)
  unfold Gathering.drop
  dsimp only
  rw [hmark, hrunning]
  have hfinished := finished { g with
    entries, alarms := g.alarms.filter (·.2 != .at i) } .root i none
  unfold abortAll
  rw [List.foldl_nil]
  generalize finish _ _ _ = g' at *
  obtain ⟨ts, q, c, rfl⟩ : ∃ ts q c, g' = { g with
      entries, alarms := g.alarms.filter (·.2 != .at i)
      tasks := ts, queue := q, called := c } := ⟨_, _, _, hfinished.frame⟩
  refine ⟨h.now, .inl ⟨hnone, crew.announce i none, ?_, hfailure⟩, fun j m' hj => ?_,
    harrivals.trans h.arrivals, hcancellings.trans h.cancellings, h.later⟩
  · refine hfinished.tasks_owner.trans ?_
    rw [show ({ g with entries, alarms := _ } : Gathering).tasks .root = _ from howner]
    rfl
  · by_cases hij : j = i
    · subst hij
      refine .inr ⟨by rwa [← htask], hfinished.tasks_self, hself.trans ?_⟩
      rw [hlog, htask, h.now]
    · have hne : TaskId.at j ≠ .at i := TaskId.at_injective.ne hij
      have hsame : ts (.at j) = g.tasks (.at j) :=
        hfinished.tasks_other _ hne (TaskId.child_ne_root _ j)
      exact (h.members j m' hj).imp
        (fun ⟨h₁, h₂, h₃⟩ => ⟨hsame.trans h₁, (hother _ hne).trans h₂, h₃⟩)
        fun ⟨h₁, h₂, h₃⟩ => ⟨h₁, hsame.trans h₂, (hother _ hne).trans h₃⟩

/-- **A step** of a race that has been called off. -/
theorem step (hplain : ∀ i m, ms[i]? = some m → (g₀.tasks (.at i)).isWaiting = false)
    (h : CalledOff ms g₀ e n g) (hflat : ∀ m ∈ ms, m.isFlat = true)
    (hregular : Regular (plan ms []) none [] g) : CalledOff ms g₀ e n g.step := by
  cases hreturned : g.returned with
  | some p =>
    obtain ⟨called, ran, left, deferred, heq⟩ :=
      hregular.step_of_returned hflat (by rw [hreturned]; exact nofun)
    rw [heq]
    exact h.reschedule g.queue called ran left deferred
  | none =>
    unfold Gathering.step
    split
    · exact h.turnRound hplain hreturned
    · rename_i hround
      split
      · rename_i id rest hqueue
        have hmem : id ∈ g.queue := by rw [hqueue]; exact List.mem_cons_self
        obtain ⟨i, m, hm, rfl⟩ := hregular.exists_at_of_mem_queue hflat hmem
        have halive := hregular.queued _ hmem
        have hdoomed : .at i ∈ g.doomed := by
          rcases h.members i m hm with ⟨htask, -, hdoomed⟩ | ⟨-, hended, -⟩
          · exact hdoomed (by rwa [← htask])
          · rw [hended] at halive
            cases halive
        unfold Gathering.run
        rw [if_pos hdoomed]
        exact (h.reschedule rest g.called _ stamina g.deferred).drop hplain hreturned hm halive
      · rename_i hqueue
        have hidle : g.called = false ∧ g.deferred = [] := by simpa [hqueue] using hround
        obtain ⟨crew, htask, hfailure⟩ := h.waiting hreturned
        obtain ⟨-, hnone, -⟩ := hregular.crew_of_atRest ⟨hqueue, hidle.1, hidle.2⟩
          (plan_root ms []) htask
        exact absurd (.inl hfailure) (hnone e)

end CalledOff

end Steps

/-! ## Steps of races -/

namespace Regular

/-- A member that has not ended is among the tasks of its owner. -/
theorem mem_running {plan : Plan} {active : Option TaskId} {extra : List TaskId} {g : Gathering}
    (h : Regular plan active extra g) {crew : Crew} {ending : Ending}
    (htask : g.tasks .root = .waiting crew ending) {i : Nat}
    (halive : (g.tasks (.at i)).isAlive = true) : i ∈ crew.running := by
  rcases (h.linked .root i halive).resolve_left TaskId.root_ne_outer with
    ⟨crew', ending', htask', hi, -⟩ | ⟨hdead, -⟩
  · rw [htask] at htask'
    cases htask'
    exact hi
  · rw [htask] at hdead
    cases hdead

end Regular

/-- The moment between two rounds at which the owner looks at its results, with the members that are
to run. -/
def Gathering.between (g : Gathering) (queue : List TaskId) : Gathering where
  __ := g
  queue := queue
  called := false
  ran := 0
  left := stamina
  deferred := []

namespace Racing

open Gathering

variable {ms : List Member} {taken pending : List Nat} {g : Gathering}

/-- Only the owner waits. -/
theorem isWaiting (h : Racing ms taken pending g) {i : Nat} {m : Member} (hm : ms[i]? = some m) :
    (g.tasks (.at i)).isWaiting = false := by
  cases h.standing i m hm with
  | fresh htask | asleep _ _ htask | yielded _ htask | ended htask => rw [htask]; rfl

/-- What comes of a look at the results, with the members that are to run. -/
inductive Looked (ms : List Member) (taken pending : List Nat) (g : Gathering)
    (queue : List TaskId) (g' : Gathering) : Prop
  | on (h : Racing ms (taken ++ pending) [] g') (hnow : g'.now = g.now)
      (halarms : g'.alarms = g.alarms) (hran : g'.ran = 0) (hqueue : g'.queue = queue)
      (harrivals : DbLifecycle.arrivals g'.entries = DbLifecycle.arrivals g.entries)
  | joined (h : Joined ms g')
  | calledOff {before : List Nat} {i : Nat} {after : List Nat}
      (hpending : pending = before ++ i :: after)
      (hbefore : ∀ j ∈ before, (endingAt ms j).isOk = true)
      (hfailed : (endingAt ms i).isOk = false)
      (h : CalledOff ms g (endingAt ms i) (ms.length - 1 - (taken ++ before).length) g')

section Review

variable {crew : Crew} {queue : List TaskId} (hqueue : g.queue ⊆ queue)
include hqueue

/-- All results are good, and there are more to come. -/
theorem take_all (h : Racing ms taken pending g)
    (hgood : ∀ i ∈ pending, (endingAt ms i).isOk = true) (hfailure : crew.failure = none)
    (haside : crew.aside = []) (hresults : crew.results = [])
    (hsize : (taken ++ pending).length + crew.size = ms.length) :
    Racing ms (taken ++ pending) [] ((g.between queue).set .root (.waiting crew (.ok ()))) where
  returned := h.returned
  doomed := h.doomed
  standing i m hm := (h.standing i m hm).congr rfl (set_of_ne _ (TaskId.child_ne_root _ i) _) rfl
    (fun hx => hqueue hx) fun _ hu => hu
  deferred := nofun
  owner := ⟨crew, set_self _ _ _, hfailure, haside, hresults, hsize⟩
  arrivals := h.arrivals.trans (List.append_nil _).symm
  arrived i := by
    rw [set_of_ne _ (TaskId.child_ne_root _ i)]
    exact h.arrived i
  ordered := by
    rw [List.append_nil]
    exact h.ordered
  good i hi := (List.mem_append.mp hi).elim (h.good i) (hgood i)
  pending_le := Nat.le_refl _
  ran_le := Nat.zero_le _
  cancellings := h.cancellings

omit hqueue in
/-- All members have succeeded, and the owner returns. -/
theorem join (h : Racing ms taken pending g) (hquiet : g.later = [])
    (hended : ∀ i, (g.tasks (.at i)).isAlive = false) (queue : List TaskId) :
    Joined ms { (g.between queue).set .root .ended with returned := some (g.now, .ok ()) } where
  returned := ⟨_, rfl⟩
  members i m hm := by
    have hlog : ({ (g.between queue).set .root .ended with
        returned := some (g.now, .ok ()) } : Gathering).log (.at i) = g.log (.at i) :=
      log_return (g := g.between queue) h.returned hquiet (.at i)
    rw [hlog]
    exact ((h.standing i m hm).of_ended (hended i)).1
  cancellings := h.cancellings
  later := hquiet

omit hqueue in
/-- There is a failure, and all members that have not ended are cancelled. -/
theorem callOff (h : Racing ms taken pending g) (hquiet : g.later = []) {places : List Nat}
    (hplaces : ∀ i, (g.tasks (.at i)).isAlive = true → i ∈ places) {c : Crew} {e : Ending}
    (hfailure : c.failure = some e) (n : Nat) (queue : List TaskId) :
    CalledOff ms g e n ((((g.between queue).record [.cancelling g.now n]).abortAll .root
      places).set .root (.waiting c (.ok ()))) := by
  have hlog := (g.between queue).log_cancelling g.now n
  have hrecord := record_of_none (g := g.between queue) h.returned [.cancelling g.now n]
  rw [hrecord] at hlog ⊢
  rw [abortAll_eq]
  refine ⟨rfl, .inl ⟨h.returned, c, set_self _ _ _, hfailure⟩,
    fun i m hm => .inl ⟨set_of_ne _ (TaskId.child_ne_root _ i) _, hlog (.at i), fun halive => ?_⟩,
    ?_, ?_, hquiet⟩
  · refine List.mem_append_left _ (List.mem_reverse.mpr ?_)
    exact (mem_victims _).mpr ⟨⟨i, hplaces i halive, rfl⟩, halive⟩
  · exact (arrivals_append _ _).trans (List.append_nil _)
  · exact (cancellings_append _ _).trans (congrArg (· ++ [(g.now, n)]) h.cancellings)

section Look

variable (h : Racing ms taken pending g) (hquiet : g.later = [])
  (htask : g.tasks .root = .waiting crew (.ok ())) (hfailure : crew.failure = none)
  (haside : crew.aside = []) (hlength : crew.results.length = pending.length)
  (hle : crew.results.length ≤ stamina) (hsize : taken.length + crew.size = ms.length)
  (hrunning : ∀ i, (g.tasks (.at i)).isAlive = true → i ∈ crew.running)
include h hquiet htask hfailure haside hlength hle hsize hrunning

/-- A look at good results. -/
theorem review_good (hfirst : Result.firstFailure crew.results = none)
    (hgood : ∀ i ∈ pending, (endingAt ms i).isOk = true) :
    Looked ms taken pending g queue ((g.between queue).review .root) := by
  have htake := Crew.take_of_good hle hfailure hfirst
  have hlook : crew.look stamina = { crew with results := [], watched := true } := by
    rw [Crew.look, htake]
  have hreaction : (g.between queue).reaction .root (crew.take stamina) = g.between queue := by
    rw [reaction, htake]
  rcases review_cases (g := g.between queue) htask (congrArg Crew.results hlook) with
    ⟨hzero, heq⟩ | heq
  · rw [heq]
    rw [show (g.between queue).left = stamina from rfl, hlook] at hzero ⊢
    rw [hreaction, show ({ crew with results := [], watched := true } : Crew).failure = none
      from hfailure]
    have hdead : ∀ i, (g.tasks (.at i)).isAlive = false := fun i => by
      rw [← Bool.not_eq_true]
      intro halive
      have hpos := List.length_pos_of_mem (hrunning i halive)
      simp only [Crew.size] at hzero
      omega
    unfold leave
    rw [if_pos rfl]
    exact .joined (h.join hquiet hdead queue)
  · rw [heq, show (g.between queue).left = stamina from rfl, hlook, hreaction]
    refine .on (h.take_all hqueue hgood hfailure haside rfl ?_) rfl rfl rfl rfl rfl
    rw [Crew.size, haside, hlength] at hsize
    rw [List.length_append, Crew.size, haside]
    simp only [List.length_nil] at hsize ⊢
    omega

omit hqueue in
/-- A look at results with a failure. -/
theorem review_bad {before after : List Nat} {i : Nat} (hpending : pending = before ++ i :: after)
    (hfirst : Result.firstFailure crew.results = some (endingAt ms i, after.length))
    (hbefore : ∀ j ∈ before, (endingAt ms j).isOk = true) (hbad : (endingAt ms i).isOk = false) :
    Looked ms taken pending g queue ((g.between queue).review .root) := by
  have htake := Crew.take_of_bad hle hfailure hfirst
  have hlook : crew.look stamina =
      { crew with results := [], watched := true, failure := some (endingAt ms i) } := by
    rw [Crew.look, htake]
  have hcount : after.length + (crew.running.length + crew.aside.length) =
      ms.length - 1 - (taken ++ before).length := by
    rw [Crew.size, haside, hlength, hpending] at hsize
    rw [← hsize, haside]
    simp only [List.length_append, List.length_cons, List.length_nil]
    omega
  have hreaction : (g.between queue).reaction .root (crew.take stamina) =
      ((g.between queue).record
        [.cancelling g.now (ms.length - 1 - (taken ++ before).length)]).abortAll .root
          crew.running := by
    rw [reaction, htake, ← hcount]
    rfl
  have hoff := h.callOff (c := { crew with
    results := [], watched := true, failure := some (endingAt ms i) }) hquiet hrunning rfl
    (ms.length - 1 - (taken ++ before).length) queue
  rcases review_cases (g := g.between queue) htask (congrArg Crew.results hlook) with
    ⟨-, heq⟩ | heq
  · rw [heq, show (g.between queue).left = stamina from rfl, hlook, hreaction]
    refine .calledOff hpending hbefore hbad (hoff.leave ?_)
    rw [abortAll_eq]
    exact (record_returned _ _).trans h.returned
  · rw [heq, show (g.between queue).left = stamina from rfl, hlook, hreaction]
    exact .calledOff hpending hbefore hbad hoff

end Look

/-- **The owner looks at its results.** -/
theorem review (h : Racing ms taken pending g) {active : Option TaskId} {extra : List TaskId}
    (hregular : Regular (plan ms []) active extra g) :
    Looked ms taken pending g queue ((g.between queue).review .root) := by
  obtain ⟨crew, htask, hfailure, haside, hresults, hsize⟩ := h.owner
  have hquiet := hregular.quiet h.returned
  have hrunning : ∀ i, (g.tasks (.at i)).isAlive = true → i ∈ crew.running := fun _ halive =>
    hregular.mem_running htask halive
  have hlength : crew.results.length = pending.length := by rw [hresults, List.length_map]
  have hle : crew.results.length ≤ stamina := by
    have hpending := h.pending_le
    have hran := h.ran_le
    have hround : round ≤ stamina := by decide
    omega
  have hspec := Result.firstFailure_pending ms pending
  rw [← hresults] at hspec
  split at hspec
  · rename_i hfirst
    exact h.review_good hqueue hquiet htask hfailure haside hlength hle hsize hrunning hfirst hspec
  · rename_i hfirst
    obtain ⟨before, i, after, hpending, hbefore, rfl, hbad, rfl⟩ := hspec
    exact h.review_bad hquiet htask hfailure haside hlength hle hsize hrunning hpending hfirst
      hbefore hbad

end Review

end Racing

end DbLifecycle
