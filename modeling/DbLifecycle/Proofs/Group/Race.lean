import DbLifecycle.Proofs.Group.Effort
import DbLifecycle.Proofs.Group.Order

/-!
# Races

A group whose members have no groups, and nothing outside of it. Until the owner sees a failure, its
members run as if they were alone, and what they come to is told in the order of the records.

* `arrivals`, `cancellings`: who has come to an end of its own, and when the others were cancelled.
* `Gathering.Standing`: where a member stands that nothing has cancelled.
* `Gathering.Moved`: what a member's turn changes.
* `Racing`: what holds until the owner sees a failure.
-/

namespace DbLifecycle

/-! ## Records -/

/-- The place of a task in the outermost group. -/
def TaskId.place (x : TaskId) : Nat := x.path.headD 0

/-- The task at a place of the outermost group. -/
abbrev TaskId.at (i : Nat) : TaskId := TaskId.root.child i

@[simp]
theorem TaskId.place_at (i : Nat) : (TaskId.at i).place = i := rfl

theorem TaskId.at_injective : Function.Injective TaskId.at := fun _ _ h => (child_injective h).2

/-- Whether a mark is that of an end that a task comes to by itself. -/
def Mark.isArrival : Mark → Bool
  | .done | .failed | .panicked => true
  | _ => false

/-- The place whose task has come to an end of its own, if this is what an entry says. -/
def Entry.arrival? : Entry → Option Nat
  | .mark _ id what => if what.isArrival then some id.place else none
  | .cancelling _ _ => none

/-- The places whose tasks have come to an end of their own, in this order. -/
def arrivals (es : List Entry) : List Nat := es.filterMap Entry.arrival?

/-- When tasks were cancelled for a failure, and how many results were not taken, if this is what an
entry says. -/
def Entry.cancelling? : Entry → Option (Nat × Nat)
  | .mark _ _ _ => none
  | .cancelling t n => some (t, n)

/-- All times at which tasks were cancelled for a failure, each with the number of results that were
not taken. -/
def cancellings (es : List Entry) : List (Nat × Nat) := es.filterMap Entry.cancelling?

theorem arrivals_append (es fs : List Entry) : arrivals (es ++ fs) = arrivals es ++ arrivals fs :=
  List.filterMap_append

theorem cancellings_append (es fs : List Entry) :
    cancellings (es ++ fs) = cancellings es ++ cancellings fs :=
  List.filterMap_append

theorem arrivals_mark (es : List Entry) (t : Nat) (id : TaskId) (what : Mark) :
    arrivals (es ++ [.mark t id what]) =
      arrivals es ++ if what.isArrival then [id.place] else [] := by
  rw [arrivals_append]
  cases hwhat : what.isArrival <;> simp [arrivals, Entry.arrival?, hwhat]

theorem cancellings_mark (es : List Entry) (t : Nat) (id : TaskId) (what : Mark) :
    cancellings (es ++ [.mark t id what]) = cancellings es := by
  rw [cancellings_append]
  exact List.append_nil _

theorem Mark.isArrival_ofEnding (e : Ending) : (Mark.ofEnding e).isArrival = true := by
  cases e <;> rfl

namespace Gathering

theorem record_of_none {g : Gathering} (hnone : g.returned = none) (es : List Entry) :
    g.record es = { g with entries := g.entries ++ es } := by
  rw [record_eq, hnone]
  rfl

/-- Until the group returns, a mark is one more entry. -/
theorem mark_eq {g : Gathering} (hnone : g.returned = none) (id : TaskId) (what : Mark) :
    g.mark id what = { g with entries := g.entries ++ [.mark g.now id what] } :=
  record_of_none hnone _

/-- A mark says nothing about other tasks. -/
theorem log_mark_of_ne {g : Gathering} {id x : TaskId} (h : x ≠ id) (what : Mark) :
    (g.mark id what).log x = g.log x := by
  rw [mark, log_record]
  simp [marksOf, Entry.about, h.symm]

end Gathering

/-- How long the member at a place takes. -/
def durationAt (ms : List Member) (i : Nat) : Nat := (ms[i]?.map Member.duration).getD 0

theorem durationAt_of_getElem? {ms : List Member} {i : Nat} {m : Member} (h : ms[i]? = some m) :
    durationAt ms i = m.duration := by
  rw [durationAt, h]
  rfl

/-- The end of the member at a place. -/
def endingAt (ms : List Member) (i : Nat) : Ending := (ms[i]?.map Member.ending).getD (.ok ())

theorem endingAt_of_getElem? {ms : List Member} {i : Nat} {m : Member} (h : ms[i]? = some m) :
    endingAt ms i = m.ending := by
  rw [endingAt, h]
  rfl

namespace Gathering

/-! ## Members -/

/-- Where a member stands that nothing has cancelled. -/
inductive Standing (g : Gathering) (x : TaskId) (m : Member) : Prop
  | fresh (htask : g.tasks x = .fresh m) (hlog : g.log x = []) (hnow : g.now = 0)
      (hqueue : x ∈ g.queue)
  | asleep {done rest : List Nat} {d : Nat} (hdelays : m.delays = done ++ d :: rest) (hd : 0 < d)
      (htask : g.tasks x = .asleep (m.withDelays rest)) (hlog : g.log x = Member.opening 0 done)
      (hsince : done.sum ≤ g.now)
      (hwakes : x ∈ g.queue ∧ g.now = done.sum + d ∨
        (done.sum + d, x) ∈ g.alarms ∧ g.now < done.sum + d)
  | yielded {done rest : List Nat} {d : Nat} (hdelays : m.delays = done ++ d :: rest)
      (htask : g.tasks x = .yielded (m.withDelays (d :: rest)))
      (hlog : g.log x = Member.opening 0 done) (hnow : g.now = done.sum)
      (hpause : ∃ u ∈ m.pause?, u ≤ g.now)
  | ended (htask : g.tasks x = .ended) (hlog : g.log x = m.story 0 m.ending)
      (htime : m.duration ≤ g.now)

/-- Where a member stands depends on what is told about it only. -/
theorem Standing.congr {g g' : Gathering} {x : TaskId} {m : Member} (h : g.Standing x m)
    (hnow : g'.now = g.now) (htask : g'.tasks x = g.tasks x) (hlog : g'.log x = g.log x)
    (hqueue : x ∈ g.queue → x ∈ g'.queue) (halarm : ∀ t, (t, x) ∈ g.alarms → (t, x) ∈ g'.alarms) :
    g'.Standing x m := by
  cases h with
  | fresh h₁ h₂ h₃ h₄ => exact .fresh (htask.trans h₁) (hlog.trans h₂) (hnow.trans h₃) (hqueue h₄)
  | asleep h₁ h₂ h₃ h₄ h₅ h₆ =>
    exact .asleep h₁ h₂ (htask.trans h₃) (hlog.trans h₄) (hnow ▸ h₅)
      (hnow ▸ h₆.imp (And.imp_left hqueue) (And.imp_left (halarm _)))
  | yielded h₁ h₂ h₃ h₄ h₅ =>
    exact .yielded h₁ (htask.trans h₂) (hlog.trans h₃) (hnow.trans h₄) (hnow ▸ h₅)
  | ended h₁ h₂ h₃ => exact .ended (htask.trans h₁) (hlog.trans h₂) (hnow ▸ h₃)

/-- A member that has ended has told its whole story. -/
theorem Standing.of_ended {g : Gathering} {x : TaskId} {m : Member} (h : g.Standing x m)
    (hended : (g.tasks x).isAlive = false) :
    g.log x = m.story 0 m.ending ∧ m.duration ≤ g.now := by
  cases h with
  | ended _ hlog htime => exact ⟨hlog, htime⟩
  | fresh htask | asleep _ _ htask | yielded _ htask => rw [htask] at hended; cases hended

/-! ## Turns -/

/-- What a task records while it gets on, with the delays it has then behind it. -/
structure GotOn (id : TaskId) (done : List Nat) (g g' : Gathering) : Prop where
  frame : g' = { g with left := g'.left, entries := g'.entries }
  log_self : g'.log id = Member.opening 0 done
  log_other : ∀ x, x ≠ id → g'.log x = g.log x
  arrivals : arrivals g'.entries = arrivals g.entries
  cancellings : cancellings g'.entries = cancellings g.entries

namespace GotOn

variable {g g' g'' : Gathering} {id : TaskId} {done done' : List Nat}

theorem now (h : GotOn id done g g') : g'.now = g.now := by rw [h.frame]

theorem returned (h : GotOn id done g g') : g'.returned = g.returned := by rw [h.frame]

theorem tasks (h : GotOn id done g g') : g'.tasks = g.tasks := by rw [h.frame]

theorem alarms (h : GotOn id done g g') : g'.alarms = g.alarms := by rw [h.frame]

theorem deferred (h : GotOn id done g g') : g'.deferred = g.deferred := by rw [h.frame]

theorem refl (h : g.log id = Member.opening 0 done) : GotOn id done g g :=
  ⟨rfl, h, fun _ _ => rfl, rfl, rfl⟩

theorem trans (h : GotOn id done g g') (h' : GotOn id done' g' g'') : GotOn id done' g g'' where
  frame := by rw [h'.frame, h.frame]
  log_self := h'.log_self
  log_other x hx := (h'.log_other x hx).trans (h.log_other x hx)
  arrivals := h'.arrivals.trans h.arrivals
  cancellings := h'.cancellings.trans h.cancellings

/-- A mark that is no end. -/
theorem mark (hnone : g.returned = none) {what : Mark} (hwhat : what.isArrival = false)
    (hlog : g.log id ++ [(g.now, what)] = Member.opening 0 done) :
    GotOn id done g (g.mark id what) where
  frame := by rw [mark_eq hnone]
  log_self := by rw [log_mark_self, hlog]
  log_other x hx := log_mark_of_ne hx what
  arrivals := by
    rw [mark_eq hnone, arrivals_mark, hwhat]
    exact List.append_nil _
  cancellings := by rw [mark_eq hnone, cancellings_mark]

/-- The mark of a delay that is over. -/
theorem tick (hnone : g.returned = none) {d : Nat} (hlog : g.log id = Member.opening 0 done)
    (hnow : g.now = done.sum + d) (left : Nat) :
    GotOn id (done ++ [d]) g ({ g with left }.mark id .step) := by
  have hspent : GotOn id done g { g with left } := ⟨rfl, hlog, fun _ _ => rfl, rfl, rfl⟩
  refine hspent.trans (mark (g := { g with left }) hnone rfl ?_)
  rw [Member.opening_concat, ← hlog, Nat.zero_add, ← hnow]
  rfl

end GotOn

variable {g g' : Gathering} {id : TaskId} {m : Member}

/-- What an operation without a group does with the delays before it: it gets through some that are
over at once, and then ends, gives way or falls asleep. -/
theorem sleep_of_isFlat (hflat : m.isFlat = true) {before : List Nat}
    (hlog : g.log id = Member.opening 0 before) (hnow : g.now = before.sum)
    (hnone : g.returned = none) (more after : List Nat) :
    ∃ g₁ n, GotOn id (before ++ List.replicate n 0) g g₁ ∧
      (after = List.replicate n 0 ∧
          g.sleep id (m.withDelays more) after = g₁.conclude id m.ending ∨
        ∃ d rest, after = List.replicate n 0 ++ d :: rest ∧
          (0 < d ∧ g.sleep id (m.withDelays more) after =
              { g₁.set id (.asleep (m.withDelays rest)) with
                alarms := g₁.alarms ++ [(g₁.now + d, id)] } ∨
            n = g.left ∧ g.sleep id (m.withDelays more) after =
              { g₁.set id (.yielded (m.withDelays (d :: rest))) with
                deferred := id :: g₁.deferred })) := by
  induction after generalizing g before with
  | nil =>
    refine ⟨g, 0, .refl (by simpa using hlog), .inl ⟨rfl, ?_⟩⟩
    cases m with
    | plain => rfl
    | grouped => cases hflat
  | cons d after ih =>
    rw [Gathering.sleep]
    split
    · rename_i hleft
      refine ⟨g, 0, .refl (by simpa using hlog), .inr ⟨d, after, rfl, .inr ⟨hleft.symm, ?_⟩⟩⟩
      rw [Member.withDelays_withDelays]
    split
    · rename_i hleft hzero
      subst hzero
      have hmarked : GotOn id (before ++ [0]) g ({ g with left := g.left - 1 }.mark id .step) :=
        .tick hnone hlog hnow _
      obtain ⟨g₁, n, hgot, hend⟩ := ih hmarked.log_self (by simpa using hnow)
        ((record_returned _ _).trans hnone)
      have hreplicate : before ++ [0] ++ List.replicate n 0 =
          before ++ List.replicate (n + 1) 0 := by
        rw [List.append_assoc, List.replicate_succ]
        rfl
      refine ⟨g₁, n + 1, hreplicate ▸ hmarked.trans hgot, ?_⟩
      rcases hend with ⟨rfl, heq⟩ | ⟨d, rest, rfl, ⟨hd, heq⟩ | ⟨hn, heq⟩⟩
      · exact .inl ⟨rfl, heq⟩
      · exact .inr ⟨d, rest, rfl, .inl ⟨hd, heq⟩⟩
      · refine .inr ⟨d, rest, rfl, .inr ⟨?_, heq⟩⟩
        have : n = g.left - 1 := by simpa using hn
        omega
    · rename_i hpositive
      refine ⟨g, 0, .refl (by simpa using hlog), .inr ⟨d, after, rfl, .inl ⟨?_, ?_⟩⟩⟩
      · exact Nat.pos_of_ne_zero hpositive
      · rw [Member.withDelays_withDelays]

/-- The owner of the outermost group is not called through the queue. -/
theorem queue_finish_at (g : Gathering) (i : Nat) (r : Result) :
    (g.finish (.at i) r).queue = g.queue := by
  cases hwaiting : (g.tasks .root).isWaiting with
  | false => rw [finish_of_not_waiting g hwaiting]; rfl
  | true =>
    cases htask : g.tasks .root with
    | waiting crew ending =>
      rw [finish_of_waiting g htask]
      dsimp only
      split <;> rfl
    | fresh | asleep | yielded | ended => rw [htask] at hwaiting; cases hwaiting

/-- What the turn of a member leaves alone. -/
structure Kept (i : Nat) (g g' : Gathering) : Prop where
  now : g'.now = g.now
  returned : g'.returned = g.returned
  doomed : g'.doomed = g.doomed
  queue : g'.queue = g.queue
  ran : g'.ran = g.ran
  tasks : ∀ x, x ≠ .at i → x ≠ .root → g'.tasks x = g.tasks x
  log : ∀ x, x ≠ .at i → g'.log x = g.log x
  cancellings : cancellings g'.entries = cancellings g.entries

/-- What the turn of a member comes to: it ends and its owner hears of it, it falls asleep, or it
gives way. -/
inductive Moved (i : Nat) (m : Member) (g g' : Gathering) : Prop
  | ended (kept : Kept i g g') (hsum : m.delays.sum = g.now) (htask : g'.tasks (.at i) = .ended)
      (hlog : g'.log (.at i) = m.story 0 m.ending)
      (harrivals : arrivals g'.entries = arrivals g.entries ++ [i])
      (halarms : g'.alarms = g.alarms) (hdeferred : g'.deferred = g.deferred)
      (howner : ∀ crew ending, g.tasks .root = .waiting crew ending →
        g'.tasks .root = .waiting (crew.announce i (some m.ending)) ending)
  | asleep {done rest : List Nat} {d : Nat} (kept : Kept i g g')
      (hdelays : m.delays = done ++ d :: rest) (hd : 0 < d) (hsum : done.sum = g.now)
      (htask : g'.tasks (.at i) = .asleep (m.withDelays rest))
      (hlog : g'.log (.at i) = Member.opening 0 done)
      (harrivals : arrivals g'.entries = arrivals g.entries)
      (halarms : g'.alarms = g.alarms ++ [(g.now + d, .at i)])
      (hdeferred : g'.deferred = g.deferred) (howner : g'.tasks .root = g.tasks .root)
  | yielded {done rest : List Nat} {d : Nat} (kept : Kept i g g')
      (hdelays : m.delays = done ++ d :: rest) (hsum : done.sum = g.now)
      (hpause : ∃ u ∈ m.pause?, u ≤ g.now)
      (htask : g'.tasks (.at i) = .yielded (m.withDelays (d :: rest)))
      (hlog : g'.log (.at i) = Member.opening 0 done)
      (harrivals : arrivals g'.entries = arrivals g.entries)
      (halarms : g'.alarms = g.alarms) (hdeferred : g'.deferred = .at i :: g.deferred)
      (howner : g'.tasks .root = g.tasks .root)

section Moved

variable {i : Nat} {done : List Nat} {g₁ : Gathering}

/-- A member gets on, and then is doing something else. -/
theorem GotOn.kept_set (hgot : GotOn (.at i) done g g₁) (t : Task) (alarms : List (Nat × TaskId))
    (deferred : List TaskId) : Kept i g { g₁.set (.at i) t with alarms, deferred } := by
  obtain ⟨left, entries, rfl⟩ : ∃ left entries, g₁ = { g with left, entries } :=
    ⟨_, _, hgot.frame⟩
  exact ⟨rfl, rfl, rfl, rfl, rfl, fun x hx _ => set_of_ne _ hx t, hgot.log_other, hgot.cancellings⟩

theorem GotOn.owner_set (hgot : GotOn (.at i) done g g₁) (t : Task) :
    (g₁.set (.at i) t).tasks .root = g.tasks .root := by
  rw [set_of_ne _ (TaskId.child_ne_root _ i).symm, hgot.tasks]

/-- A member gets on to its end. -/
theorem Moved.of_conclude (hflat : m.isFlat = true) (hgot : GotOn (.at i) m.delays g g₁)
    (hsum : m.delays.sum = g.now) (hnone : g.returned = none) :
    Moved i m g (g₁.conclude (.at i) m.ending) := by
  obtain ⟨left, entries, rfl⟩ : ∃ left entries, g₁ = { g with left, entries } :=
    ⟨_, _, hgot.frame⟩
  have hmark := mark_eq (g := { g with left, entries }) hnone (.at i) (.ofEnding m.ending)
  have hself := log_mark_self { g with left, entries } (.at i) (.ofEnding m.ending)
  have hother : ∀ x, x ≠ .at i → (({ g with left, entries } : Gathering).mark (.at i)
      (.ofEnding m.ending)).log x = g.log x := fun x hx =>
    (log_mark_of_ne hx _).trans (hgot.log_other x hx)
  rw [hgot.log_self] at hself
  rw [hmark] at hself hother
  rw [conclude, hmark]
  have hqueue := queue_finish_at { g with
    left, entries := entries ++ [.mark g.now (.at i) (.ofEnding m.ending)] } i (some m.ending)
  have hfinished := finished { g with
    left, entries := entries ++ [.mark g.now (.at i) (.ofEnding m.ending)] } .root i (some m.ending)
  generalize finish _ _ _ = g' at *
  obtain ⟨ts, q, c, rfl⟩ : ∃ ts q c, g' = { g with
      left, entries := entries ++ [.mark g.now (.at i) (.ofEnding m.ending)]
      tasks := ts, queue := q, called := c } := ⟨_, _, _, hfinished.frame⟩
  refine .ended ⟨rfl, rfl, rfl, hqueue, rfl, hfinished.tasks_other, hother, ?_⟩ hsum
    hfinished.tasks_self ?_ ?_ rfl rfl fun crew' ending' howner' => ?_
  · exact (cancellings_mark _ _ _ _).trans hgot.cancellings
  · refine hself.trans ?_
    rw [Member.story_of_isFlat hflat, Member.duration_of_isFlat hflat, hsum]
  · refine (arrivals_mark _ _ _ _).trans ?_
    rw [hgot.arrivals, Mark.isArrival_ofEnding]
    rfl
  · refine hfinished.tasks_owner.trans ?_
    rw [show ({ g with left, entries := _ } : Gathering).tasks .root = _ from howner']
    rfl

/-- A member that has some delays behind it gets on with the others. -/
theorem Moved.of_sleep {before : List Nat} (after : List Nat) (hflat : m.isFlat = true)
    (hgot : GotOn (.at i) before g g₁) (hdelays : m.delays = before ++ after)
    (hsum : before.sum = g.now) (hnone : g.returned = none)
    (hpause : ∀ d rest, after = List.replicate g₁.left 0 ++ d :: rest → ∃ u ∈ m.pause?, u ≤ g.now)
    (more : List Nat) : Moved i m g (g₁.sleep (.at i) (m.withDelays more) after) := by
  obtain ⟨g₂, n, hgot', hend⟩ := sleep_of_isFlat hflat hgot.log_self
    (hgot.now.trans hsum.symm) (hgot.returned.trans hnone) more after
  have hgot₂ := hgot.trans hgot'
  have hsum₂ : (before ++ List.replicate n 0).sum = g.now := by simpa using hsum
  rcases hend with ⟨rfl, heq⟩ | ⟨d, rest, rfl, ⟨hd, heq⟩ | ⟨rfl, heq⟩⟩
  · rw [heq]
    rw [← hdelays] at hgot₂ hsum₂
    exact .of_conclude hflat hgot₂ hsum₂ hnone
  · rw [heq, hgot₂.now]
    exact .asleep (hgot₂.kept_set _ _ _) (by rw [hdelays, List.append_assoc]) hd hsum₂
      (set_self _ _ _) hgot₂.log_self hgot₂.arrivals (congrArg (· ++ [_]) hgot₂.alarms)
      hgot₂.deferred (hgot₂.owner_set (.asleep (m.withDelays rest)))
  · rw [heq]
    exact .yielded (hgot₂.kept_set _ _ _) (by rw [hdelays, List.append_assoc]) hsum₂
      (hpause _ _ rfl) (set_self _ _ _) hgot₂.log_self hgot₂.arrivals hgot₂.alarms
      (congrArg (.at i :: ·) hgot₂.deferred)
      (hgot₂.owner_set (.yielded (m.withDelays (d :: rest))))

/-- **The turn of a member** that has not been cancelled. -/
theorem Moved.of_run (hflat : m.isFlat = true) (hstanding : g.Standing (.at i) m)
    (halarm : ∀ u, (u, TaskId.at i) ∉ g.alarms) (halive : (g.tasks (.at i)).isAlive = true)
    (hdoomed : g.doomed = []) (hnone : g.returned = none) (rest : List TaskId) (ran : Nat) :
    Moved i m { g with queue := rest, ran, left := stamina }
      ({ g with queue := rest, ran, left := stamina }.run (.at i)) := by
  unfold Gathering.run
  rw [if_neg (by rw [hdoomed]; exact List.not_mem_nil)]
  cases hstanding with
  | fresh htask hlog hnow =>
    rw [show ({ g with queue := rest, ran, left := stamina } : Gathering).tasks (.at i) = _
      from htask]
    have hmarked : GotOn (.at i) [] { g with queue := rest, ran, left := stamina }
        (({ g with queue := rest, ran, left := stamina } : Gathering).mark (.at i) .start) := by
      refine .mark (g := { g with queue := rest, ran, left := stamina }) hnone rfl ?_
      refine (congrArg (· ++ [(g.now, Mark.start)]) hlog).trans ?_
      exact congrArg (fun t => [(t, Mark.start)]) hnow
    have hturn := Moved.of_sleep m.delays hflat hmarked rfl hnow.symm hnone
      (fun d rest' heq => ⟨g.now, ?_, Nat.le_refl _⟩) m.delays
    · rwa [Member.withDelays_delays] at hturn
    · rw [mark_left] at heq
      rw [Member.pause?, heq, Member.pauseFrom_replicate, hnow]
      rfl
  | @asleep done rest' d hdelays hd htask hlog hsince hwakes =>
    rw [show ({ g with queue := rest, ran, left := stamina } : Gathering).tasks (.at i) = _
      from htask]
    have hnow : g.now = done.sum + d := (hwakes.resolve_right fun h => halarm _ h.1).2
    have hstepped := GotOn.tick (g := { g with queue := rest, ran, left := stamina }) hnone hlog
      hnow (stamina - 1)
    have hturn := Moved.of_sleep (m := m) rest' hflat hstepped (by simp [hdelays]) (by simp [hnow])
      hnone (fun d' rest'' heq => ?_)
    · simpa using hturn _
    · rw [mark_left] at heq
      -- otherwise it would have done nothing since its delay was over
      by_contra hnot
      have hlate : ∀ u ∈ m.pause?, g.now < u := fun u hu => by
        by_contra hle
        exact hnot ⟨u, hu, Nat.le_of_not_lt hle⟩
      have hpause : m.pause? = Member.pauseFrom (0 + done.sum + d) (stamina - 1) rest' := by
        rw [Member.pause?, hdelays] at hlate ⊢
        exact Member.pauseFrom_append hlate (by omega) hd
      rw [heq, Nat.zero_add, ← hnow, Member.pauseFrom_replicate] at hpause
      exact Nat.lt_irrefl g.now (hlate g.now hpause)
  | @yielded done rest' d hdelays htask hlog hnow hpause =>
    rw [show ({ g with queue := rest, ran, left := stamina } : Gathering).tasks (.at i) = _
      from htask]
    have hgot : GotOn (.at i) done { g with queue := rest, ran, left := stamina }
        { g with queue := rest, ran, left := stamina } := .refl hlog
    simpa using Moved.of_sleep (d :: rest') hflat hgot hdelays hnow.symm hnone
      (fun _ _ _ => hpause) (d :: rest')
  | ended htask =>
    rw [htask] at halive
    cases halive

end Moved

end Gathering

/-! ## Plans -/

section Flat

variable {ms : List Member} (hflat : ∀ m ∈ ms, m.isFlat = true)

theorem plan_at {i : Nat} {m : Member} (hm : ms[i]? = some m) :
    plan ms [] (.at i) = some (0, m) := by
  rw [plan_child, plan_root]
  exact Option.map_eq_some_iff.mpr ⟨m, hm, rfl⟩

include hflat

/-- There are no tasks but the owner and the members. -/
theorem exists_at_of_plan {x : TaskId} (h : (plan ms [] x).isSome = true) :
    x = .root ∨ x = .outer ∨ ∃ i m, ms[i]? = some m ∧ x = .at i := by
  obtain ⟨outside, path⟩ := x
  cases outside with
  | true =>
    cases path with
    | nil => exact .inr (.inl rfl)
    | cons i path => cases h
  | false =>
    match path with
    | [] => exact .inl rfl
    | i :: path =>
      have hdescend : plan ms [] ⟨false, i :: path⟩ =
          ms[i]?.bind fun m => Member.descend (0, m) path := by
        rw [show plan ms [] ⟨false, i :: path⟩ =
          (ms[i]?.map fun m => (0, m)).bind fun q => Member.descend q path from rfl]
        cases ms[i]? <;> rfl
      rw [hdescend] at h
      cases hm : ms[i]? with
      | none => rw [hm] at h; cases h
      | some m =>
        cases path with
        | nil => exact .inr (.inr ⟨i, m, hm, rfl⟩)
        | cons j path =>
          rw [hm] at h
          have hleaf := hflat m (List.mem_of_getElem? hm)
          cases m with
          | plain => cases h
          | grouped => cases hleaf

namespace Regular

variable {g : Gathering}

/-- A task that has not ended, and is not the owner, is a member. -/
theorem exists_at (h : Regular (plan ms []) none [] g) {x : TaskId}
    (halive : (g.tasks x).isAlive = true) (hroot : x ≠ .root) :
    ∃ i m, ms[i]? = some m ∧ x = .at i :=
  ((exists_at_of_plan hflat (h.planned x halive)).resolve_left hroot).resolve_left
    (h.ne_outer halive)

theorem exists_at_of_mem_queue (h : Regular (plan ms []) none [] g) {x : TaskId}
    (hx : x ∈ g.queue) : ∃ i m, ms[i]? = some m ∧ x = .at i :=
  h.exists_at hflat (h.queued x hx) fun heq => h.root.1 (heq ▸ hx)

end Regular

end Flat

namespace Regular

variable {plan : Plan} {g : Gathering}

/-- A task that has its turn without having been cancelled does not sleep on. -/
theorem not_mem_alarms (h : Regular plan none [] g) {x : TaskId} (hqueue : x ∈ g.queue)
    (hdoomed : x ∉ g.doomed) (u : Nat) : (u, x) ∉ g.alarms := by
  obtain ⟨⟨t, m⟩, hplan⟩ := Option.isSome_iff_exists.mp (h.planned x (h.queued x hqueue))
  cases h.fit hplan with
  | asleep _ _ _ _ _ _ hqueued => exact ((hqueued (.inl hqueue)).resolve_left hdoomed).2 u
  | fresh _ _ _ _ halarm | yielded _ _ _ _ _ halarm | waiting _ _ _ _ _ _ _ _ halarm
  | ended _ _ halarm => exact halarm u

/-- The owner of the outermost group is called when there is a result. -/
theorem called_of_results (h : Regular plan none [] g) {crew : Crew} {ending : Ending}
    (htask : g.tasks .root = .waiting crew ending) (hresults : crew.results ≠ []) :
    g.called = true := by
  obtain ⟨ms, hplan⟩ := h.rootPlan
  obtain ⟨-, -, -, -, -, -, -, hqueued, -, -⟩ := (h.fit hplan).of_waiting htask
  rcases hqueued (.inl hresults) with hmem | ⟨-, hcalled⟩
  · exact absurd hmem h.root.1
  · exact hcalled

end Regular

/-! ## The race -/

/-- What holds of a race until the owner sees a failure. Of the members that have come to an end,
the owner has taken the results of some, which succeeded, and others are pending. -/
structure Racing (ms : List Member) (taken pending : List Nat) (g : Gathering) : Prop where
  returned : g.returned = none
  doomed : g.doomed = []
  standing : ∀ i m, ms[i]? = some m → g.Standing (.at i) m
  /-- Only members give way, and only those that have more to do than they can. -/
  deferred : ∀ x ∈ g.deferred, ∃ i m, ms[i]? = some m ∧ x = .at i ∧ ∃ u ∈ m.pause?, u ≤ g.now
  owner : ∃ crew, g.tasks .root = .waiting crew (.ok ()) ∧ crew.failure = none ∧
    crew.aside = [] ∧ crew.results = pending.map (fun i => some (endingAt ms i)) ∧
    taken.length + crew.size = ms.length
  arrivals : arrivals g.entries = taken ++ pending
  arrived : ∀ i, i ∈ DbLifecycle.arrivals g.entries ↔
    ∃ m, ms[i]? = some m ∧ (g.tasks (.at i)).isAlive = false
  /-- Those that take longer come later. -/
  ordered : (taken ++ pending).Pairwise (durationAt ms · ≤ durationAt ms ·)
  good : ∀ i ∈ taken, (endingAt ms i).isOk = true
  pending_le : pending.length ≤ g.ran
  ran_le : g.ran ≤ Gathering.round
  cancellings : cancellings g.entries = []

namespace Racing

open Gathering

variable {ms : List Member} {taken pending : List Nat} {g g' : Gathering}

/-- Unless the owner is called, nothing is pending. -/
theorem pending_of_not_called (h : Racing ms taken pending g)
    (hregular : Regular (plan ms []) none [] g) (hcalled : g.called = false) : pending = [] := by
  obtain ⟨crew, htask, -, -, hresults, -⟩ := h.owner
  by_contra hne
  rw [hregular.called_of_results htask (by simpa [hresults] using hne)] at hcalled
  cases hcalled

/-- A member that has its turn does not sleep on. -/
theorem not_mem_alarms (h : Racing ms taken pending g) (hregular : Regular (plan ms []) none [] g)
    {x : TaskId} (hx : x ∈ g.queue) (u : Nat) : (u, x) ∉ g.alarms :=
  hregular.not_mem_alarms hx (by rw [h.doomed]; exact List.not_mem_nil) u

/-- A member that has come to an end has told its whole story by now. -/
theorem log_of_mem (h : Racing ms taken pending g) {i : Nat} (hi : i ∈ taken ++ pending) :
    ∃ m, ms[i]? = some m ∧ g.log (.at i) = m.story 0 m.ending ∧ m.duration ≤ g.now := by
  obtain ⟨m, hm, hended⟩ := (h.arrived i).mp (by rwa [h.arrivals])
  exact ⟨m, hm, (h.standing i m hm).of_ended hended⟩

section Move

variable {i : Nat} {m : Member} {rest : List TaskId} {ran : Nat}

/-- A member that has its turn has not come to an end before. -/
theorem notMem_arrivals (h : Racing ms taken pending g)
    (halive : (g.tasks (.at i)).isAlive = true) : i ∉ DbLifecycle.arrivals g.entries := by
  intro hmem
  obtain ⟨m, -, hended⟩ := (h.arrived i).mp hmem
  rw [halive] at hended
  cases hended

/-- Where the other members stand does not change. -/
theorem standing_of_kept (h : Racing ms taken pending g) (hm : ms[i]? = some m)
    (hqueue : g.queue = .at i :: rest)
    (kept : Kept i { g with queue := rest, ran, left := stamina } g')
    (halarms : ∀ a ∈ g.alarms, a ∈ g'.alarms) (hself : g'.Standing (.at i) m) :
    ∀ j m', ms[j]? = some m' → g'.Standing (.at j) m' := by
  intro j m' hj
  by_cases hij : j = i
  · subst hij
    rw [hm] at hj
    cases hj
    exact hself
  · have hne : TaskId.at j ≠ .at i := TaskId.at_injective.ne hij
    refine (h.standing j m' hj).congr kept.now (kept.tasks _ hne (TaskId.child_ne_root _ j))
      (kept.log _ hne) (fun hmem => ?_) fun u hu => halarms _ hu
    rw [kept.queue]
    rw [hqueue] at hmem
    exact (List.mem_cons.mp hmem).resolve_left hne

/-- The others that have come to an end are the same. -/
theorem arrived_of_kept (h : Racing ms taken pending g)
    (kept : Kept i { g with queue := rest, ran, left := stamina } g') {j : Nat} (hij : j ≠ i) :
    j ∈ DbLifecycle.arrivals g.entries ↔
      ∃ m, ms[j]? = some m ∧ (g'.tasks (.at j)).isAlive = false := by
  rw [kept.tasks _ (TaskId.at_injective.ne hij) (TaskId.child_ne_root _ j)]
  exact h.arrived j

/-- A member that goes on after its turn leaves everything else as it was. -/
theorem goOn (h : Racing ms taken pending g) (hm : ms[i]? = some m)
    (halive : (g.tasks (.at i)).isAlive = true) (hqueue : g.queue = .at i :: rest)
    (hran : pending.length < ran ∧ ran ≤ round)
    (kept : Kept i { g with queue := rest, ran, left := stamina } g')
    (hself : g'.Standing (.at i) m) (halive' : (g'.tasks (.at i)).isAlive = true)
    (harrivals : DbLifecycle.arrivals g'.entries = DbLifecycle.arrivals g.entries)
    (halarms : ∀ a ∈ g.alarms, a ∈ g'.alarms) (howner : g'.tasks .root = g.tasks .root)
    (hdeferred : ∀ x ∈ g'.deferred, x ∈ g.deferred ∨ x = .at i ∧ ∃ u ∈ m.pause?, u ≤ g.now) :
    Racing ms taken pending g' where
  returned := kept.returned.trans h.returned
  doomed := kept.doomed.trans h.doomed
  standing := h.standing_of_kept hm hqueue kept halarms hself
  deferred x hx := by
    rw [kept.now]
    rcases hdeferred x hx with hx | ⟨rfl, hpause⟩
    · exact h.deferred x hx
    · exact ⟨i, m, hm, rfl, hpause⟩
  owner := by
    rw [howner]
    exact h.owner
  arrivals := harrivals.trans h.arrivals
  arrived j := by
    rw [harrivals]
    by_cases hij : j = i
    · subst hij
      refine iff_of_false (h.notMem_arrivals halive) fun ⟨_, _, hended⟩ => ?_
      rw [halive'] at hended
      cases hended
    · exact h.arrived_of_kept kept hij
  ordered := h.ordered
  good := h.good
  pending_le := by
    rw [kept.ran]
    exact Nat.le_of_lt hran.1
  ran_le := by
    rw [kept.ran]
    exact hran.2
  cancellings := kept.cancellings.trans h.cancellings

/-- **The turn of a member** leaves the race on. -/
theorem move (h : Racing ms taken pending g) (hregular : Regular (plan ms []) none [] g)
    (hm : ms[i]? = some m) (hflat : m.isFlat = true) (hqueue : g.queue = .at i :: rest)
    (hran : pending.length < ran ∧ ran ≤ round)
    (hmoved : Moved i m { g with queue := rest, ran, left := stamina } g') :
    ∃ pending', Racing ms taken pending' g' := by
  have halive := hregular.queued (.at i) (by rw [hqueue]; exact List.mem_cons_self)
  cases hmoved with
  | ended kept hsum htask hlog harrivals halarms hdeferred hnext =>
    obtain ⟨crew, howner, hfailure, haside, hresults, hsize⟩ := h.owner
    have hrunning : i ∈ crew.running := (hregular.owned nofun howner halive).1
    refine ⟨pending ++ [i], ⟨kept.returned.trans h.returned, kept.doomed.trans h.doomed,
      h.standing_of_kept hm hqueue kept (fun a ha => by rwa [halarms]) ?_, ?_, ?_, ?_, ?_, ?_,
      h.good, ?_, ?_, kept.cancellings.trans h.cancellings⟩⟩
    · exact .ended htask hlog (by rw [Member.duration_of_isFlat hflat, hsum, kept.now])
    · rw [hdeferred, kept.now]
      exact h.deferred
    · refine ⟨crew.announce i (some m.ending), hnext crew _ howner, hfailure, haside, ?_, ?_⟩
      · simp [Crew.announce, hresults, endingAt_of_getElem? hm]
      · rw [Crew.size_announce hrunning, hsize]
    · rw [harrivals]
      exact (congrArg (· ++ [i]) h.arrivals).trans (List.append_assoc _ _ _)
    · intro j
      rw [harrivals, List.mem_append, List.mem_singleton]
      by_cases hij : j = i
      · subst hij
        exact iff_of_true (.inr rfl) ⟨m, hm, by rw [htask]; rfl⟩
      · rw [← h.arrived_of_kept kept hij]
        exact or_iff_left hij
    · rw [← List.append_assoc]
      refine List.pairwise_append.mpr ⟨h.ordered, List.pairwise_singleton _ _, fun j hj k hk => ?_⟩
      obtain ⟨m', hm', -, htime⟩ := h.log_of_mem hj
      rw [List.mem_singleton.mp hk, durationAt_of_getElem? hm, durationAt_of_getElem? hm',
        Member.duration_of_isFlat hflat, hsum]
      exact htime
    · rw [kept.ran, List.length_append]
      exact hran.1
    · rw [kept.ran]
      exact hran.2
  | asleep kept hdelays hd hsum htask hlog harrivals halarms hdeferred hnext =>
    refine ⟨pending, h.goOn hm halive hqueue hran kept ?_ (by rw [htask]; rfl) harrivals
      (fun a ha => by rw [halarms]; exact List.mem_append_left _ ha) hnext fun x hx =>
        .inl (by rwa [hdeferred] at hx)⟩
    refine .asleep hdelays hd htask hlog (by rw [kept.now, hsum]) (.inr ⟨?_, ?_⟩)
    · rw [halarms, hsum]
      exact List.mem_append_right _ (List.mem_singleton_self _)
    · rw [kept.now, hsum]
      exact Nat.lt_add_of_pos_right hd
  | yielded kept hdelays hsum hpause htask hlog harrivals halarms hdeferred hnext =>
    refine ⟨pending, h.goOn hm halive hqueue hran kept ?_ (by rw [htask]; rfl) harrivals
      (fun a ha => by rwa [halarms]) hnext fun x hx => ?_⟩
    · exact .yielded hdelays htask hlog (by rw [kept.now, hsum]) (by rw [kept.now]; exact hpause)
    · rw [hdeferred] at hx
      exact (List.mem_cons.mp hx).symm.imp_right fun heq => ⟨heq, hpause⟩

end Move

/-- When nothing can run, time passes. -/
theorem waited (h : Racing ms taken pending g) (hregular : Regular (plan ms []) none [] g)
    (hrest : g.AtRest) {t : Nat} (hnow : g.now ≤ t) (hleast : ∀ u x, (u, x) ∈ g.alarms → t ≤ u) :
    Racing ms taken pending (g.waited t) where
  returned := h.returned
  doomed := h.doomed
  standing i m hm := by
    cases h.standing i m hm with
    | fresh _ _ _ hqueue =>
      rw [hrest.queue] at hqueue
      cases hqueue
    | asleep hdelays hd htask hlog hsince hwakes =>
      rcases hwakes with ⟨hmem, -⟩ | ⟨halarm, hlt⟩
      · rw [hrest.queue] at hmem
        cases hmem
      · have hle := hleast _ _ halarm
        refine .asleep hdelays hd htask hlog (Nat.le_trans hsince hnow) ?_
        rcases Nat.lt_or_eq_of_le hle with hlt | heq
        · exact .inr ⟨Gathering.mem_alarms_waited.mpr ⟨halarm, hlt⟩, hlt⟩
        · exact .inl ⟨hrest.mem_queue_waited.mpr ⟨_, halarm, Nat.le_of_eq heq.symm⟩, heq⟩
    | yielded hdelays htask hlog _ _ =>
      cases hregular.fit (plan_at hm) with
      | yielded _ _ _ _ hqueued =>
        have hdeferred := hqueued.resolve_left (Regular.not_queued hrest [] _)
        simp [Gathering.view, hrest.deferred] at hdeferred
      | fresh htask' | asleep _ htask' | waiting _ htask' | ended htask' =>
        rw [show (g.view [] (.at i)).task = _ from htask] at htask'
        cases htask'
    | ended htask hlog htime => exact .ended htask hlog (Nat.le_trans htime hnow)
  deferred x hx := by
    rw [show (g.waited t).deferred = [] from hrest.deferred] at hx
    cases hx
  owner := h.owner
  arrivals := h.arrivals
  arrived := h.arrived
  ordered := h.ordered
  good := h.good
  pending_le := by
    rw [h.pending_of_not_called hregular hrest.called]
    exact Nat.zero_le _
  ran_le := Nat.zero_le _
  cancellings := h.cancellings

end Racing

end DbLifecycle
