import DbLifecycle.Proofs.Group.Ranking
import DbLifecycle.Proofs.Group.Return

/-!
# How races come out

A group of operations without groups of their own returns when all of them have succeeded, or when
the first of them has failed; then those that have not ended are cancelled.

* `Progress`, `Progress.steps`: how a race has gone so far, and that it is so after any steps.
* `Succeeded`, `FailedAt`: how a group comes out whose members succeed or fail.
* `InOrder`: whose failure surfaces and who is cancelled, by the order of turns.
* `gather_plain`: the law of such groups.
-/

namespace DbLifecycle

open Gathering

/-! ## Runs -/

/-- How a race has gone so far: it is on, all members have succeeded, or it has been called off in
some state. -/
inductive Progress (ms : List Member) (g : Gathering) : Prop
  | racing {taken pending : List Nat} (h : Racing ms taken pending g)
      (hranked : Steady ms → Ranked ms pending g)
  | joined (h : Joined ms g)
  | calledOff {taken before after : List Nat} {i : Nat} {g₀ : Gathering}
      (h₀ : Racing ms taken (before ++ i :: after) g₀) (hregular : Regular (plan ms []) none [] g₀)
      (hranked : Steady ms → Ranked ms (before ++ i :: after) g₀)
      (hround : g₀.queue = [] ∨ g₀.ran = round)
      (hbefore : ∀ j ∈ before, (endingAt ms j).isOk = true) (hfailed : (endingAt ms i).isOk = false)
      (h : CalledOff ms g₀ (endingAt ms i) (ms.length - 1 - (taken ++ before).length) g)

namespace Progress

variable {ms : List Member} {g : Gathering}

theorem step (h : Progress ms g) (hflat : ∀ m ∈ ms, m.isFlat = true)
    (hregular : Regular (plan ms []) none [] g) : Progress ms g.step := by
  cases h with
  | racing h hranked =>
    cases h.step hregular hflat with
    | moved hnext hm hqueue hran hmoved =>
      exact .racing hnext fun hsteady =>
        (hranked hsteady).move hsteady h hregular hm hqueue hran hmoved hnext
    | waited hnext hrest hpending hnow hleast heq =>
      refine .racing hnext fun hsteady => ?_
      rw [heq]
      exact (hranked hsteady).waited hsteady h hregular hflat hrest hnow hleast
    | still heq =>
      rw [heq]
      exact .racing h hranked
    | looked hround hqueue hlooked =>
      cases hlooked with
      | on hnext hnow halarms hran hqueue' harrivals =>
        refine .racing hnext fun hsteady => ?_
        exact (hranked hsteady).look (hround.imp_right .inr) hnow halarms hran
          (hqueue'.trans (hqueue (h.deferred_eq_nil hsteady hregular))) harrivals
      | joined hjoined => exact .joined hjoined
      | calledOff hpending hbefore hfailed hoff =>
        subst hpending
        exact .calledOff h hregular hranked hround hbefore hfailed hoff
  | joined h => exact .joined (h.step hflat hregular)
  | calledOff h₀ hregular₀ hranked hround hbefore hfailed h =>
    exact .calledOff h₀ hregular₀ hranked hround hbefore hfailed
      (h.step (fun i m hm => h₀.isWaiting hm) hflat hregular)

theorem start (ms : List Member) : Progress ms (Gathering.start ms []) := by
  cases Racing.start ms with
  | on h hnow halarms hran hqueue harrivals =>
    exact .racing h fun _ =>
      (Ranked.ready ms).look (.inr (.inl rfl)) hnow halarms hran hqueue harrivals
  | joined h => exact .joined h
  | calledOff hpending => exact absurd hpending.symm (List.append_ne_nil_of_right_ne_nil _ nofun)

theorem steps (h : Progress ms g) (hflat : ∀ m ∈ ms, m.isFlat = true)
    (hregular : Regular (plan ms []) none [] g) (n : Nat) : Progress ms (g.steps n) := by
  induction n generalizing g with
  | zero => exact h
  | succ n ih => exact ih (h.step hflat hregular) hregular.step

end Progress

/-! ## The end -/

/-- How a group comes out whose members all succeed. -/
structure Succeeded (ms : List Member) (g : Gathering) : Prop where
  returned : g.returned = some (Member.groupDuration ms, .ok ())
  members : ∀ i m, ms[i]? = some m → g.log (.at i) = m.story 0 m.ending
  cancellings : cancellings g.entries = []
  later : g.later = []

/-- What is recorded of an operation that is cancelled at a time: its first steps, unless it has not
begun. -/
inductive Member.CutAt (m : Member) (t : Nat) : List (Nat × Mark) → Prop
  | idle (h : t = 0) : m.CutAt t []
  | told {done rest : List Nat} {d : Nat} (hdelays : m.delays = done ++ d :: rest)
      (hpast : done.sum ≤ t) (hnext : t ≤ done.sum + d) :
      m.CutAt t (Member.opening 0 done ++ [(t, .cancelled)])

/-- How a group comes out of whose members the one at a place is the first to fail: some have
succeeded before, and some have come to an end after it at the same time. -/
structure FailedAt (ms : List Member) (before : List Nat) (i : Nat) (after : List Nat)
    (g : Gathering) : Prop where
  arrivals : arrivals g.entries = before ++ i :: after
  /-- Those that take longer come later. -/
  ordered : (before ++ i :: after).Pairwise (durationAt ms · ≤ durationAt ms ·)
  succeeded : ∀ j ∈ before, (endingAt ms j).isOk = true
  failed : (endingAt ms i).isOk = false
  /-- The group returns when the quickest failing member fails. -/
  time : durationAt ms i = Member.groupDuration ms
  quickest : ∀ m ∈ ms, m.ending.isOk = false → Member.groupDuration ms ≤ m.duration
  returned : g.returned = some (Member.groupDuration ms, endingAt ms i)
  cancellings : cancellings g.entries = [(Member.groupDuration ms, ms.length - 1 - before.length)]
  later : g.later = []
  /-- Members that come to an end by then tell their whole stories, and all others are cancelled. -/
  members : ∀ j m, ms[j]? = some m →
    if j ∈ before ++ i :: after then
      m.duration ≤ Member.groupDuration ms ∧ g.log (.at j) = m.story 0 m.ending
    else
      Member.groupDuration ms ≤ m.duration ∧ m.CutAt (Member.groupDuration ms) (g.log (.at j))

/-- Whether a member has a turn at a time, in a later round than another one. -/
def Missed (ms : List Member) (t i j : Nat) : Prop :=
  t ∈ turnsOf ms j ∧ round * (rankAt ms t i / round + 1) ≤ rankAt ms t j

instance (ms : List Member) (t i j : Nat) : Decidable (Missed ms t i j) :=
  inferInstanceAs (Decidable (_ ∧ _))

/-- Who is the first to fail and what the others have recorded, by the order of their turns. -/
structure InOrder (ms : List Member) (i : Nat) (g : Gathering) : Prop where
  first : ∀ j, j ≠ i → (endingAt ms j).isOk = false → Ahead (turnsOf ms) i j
  /-- Those that are in flight are all but the members that have succeeded before. -/
  inFlight : cancellings g.entries = [(Member.groupDuration ms, ms.length - 1 -
    ((Finset.range ms.length).filter fun j =>
      (endingAt ms j).isOk = true ∧ Ahead (turnsOf ms) j i).card)]
  /-- A member that has no turn at this time, or has it in the same round or before, has told what
  there is to tell by now; one that has it in a later round has not. -/
  members : ∀ j m, ms[j]? = some m → g.log (.at j) =
    let t := Member.groupDuration ms
    if Missed ms t i j then
      (Member.opening 0 m.delays).filter (·.1 < t) ++ if t = 0 then [] else [(t, .cancelled)]
    else if m.duration ≤ t then m.story 0 m.ending
    else (Member.opening 0 m.delays).filter (·.1 ≤ t) ++ [(t, .cancelled)]

section CalledOff

variable {ms : List Member} {taken pending before after : List Nat} {i : Nat} {g₀ g : Gathering}

namespace Racing

/-- The quickest failing member fails when the group is to return. -/
theorem now_eq (h : Racing ms taken pending g) (hregular : Regular (plan ms []) none [] g)
    (hflat : ∀ m ∈ ms, m.isFlat = true) (hi : i ∈ pending)
    (hfailed : (endingAt ms i).isOk = false) :
    g.now = Member.groupDuration ms ∧ durationAt ms i = Member.groupDuration ms := by
  obtain ⟨m, hm, -, htime⟩ := h.log_of_mem (List.mem_append_right taken hi)
  have hmem := List.mem_of_getElem? hm
  have hfails : m.fails = true := by
    rw [Member.fails_of_isFlat (hflat m hmem), ← endingAt_of_getElem? hm, hfailed]
    rfl
  have hle := Member.groupDuration_le_of_fails hmem hfails
  have hnow := h.now_le hregular
  rw [durationAt_of_getElem? hm]
  omega

end Racing

namespace CalledOff

variable {e : Ending} {n : Nat}

/-- A member that had not ended when the race was called off has recorded that it was cancelled, if
it had begun. -/
theorem log_of_ended (h : CalledOff ms g₀ e n g) {j : Nat} {m : Member} (hm : ms[j]? = some m)
    (hended : (g.tasks (.at j)).isAlive = false) : g.log (.at j) = g₀.log (.at j) ++
      if (g₀.tasks (.at j)).isUnderWay then [(g₀.now, .cancelled)] else [] := by
  rcases h.members j m hm with ⟨htask, hlog, -⟩ | ⟨-, -, hlog⟩
  · rw [← htask, Task.eq_ended hended, hlog]
    exact (List.append_nil _).symm
  · exact hlog

end CalledOff

/-- What has become of a member whose group was called off. -/
theorem Racing.cutAt (h : Racing ms taken pending g₀) {j : Nat} {m : Member} (hm : ms[j]? = some m)
    (halive : (g₀.tasks (.at j)).isAlive = true) : g₀.now ≤ m.duration ∧
      m.CutAt g₀.now (g₀.log (.at j) ++
        if (g₀.tasks (.at j)).isUnderWay then [(g₀.now, .cancelled)] else []) := by
  have hslow : ∀ {done rest : List Nat} {d : Nat}, m.delays = done ++ d :: rest →
      done.sum + d ≤ m.duration := Fits.sum_le_duration
  cases h.standing j m hm with
  | fresh htask hlog hnow =>
    rw [htask, hlog, hnow]
    exact ⟨Nat.zero_le _, .idle rfl⟩
  | asleep hdelays hd htask hlog hsince hwakes =>
    rw [htask, hlog]
    have hle := hwakes.elim (fun h => Nat.le_of_eq h.2) (fun h => Nat.le_of_lt h.2)
    exact ⟨Nat.le_trans hle (hslow hdelays), .told hdelays hsince hle⟩
  | @yielded done rest d hdelays htask hlog hnow =>
    rw [htask, hlog]
    have hle : g₀.now ≤ done.sum + d := hnow ▸ Nat.le_add_right _ _
    exact ⟨Nat.le_trans hle (hslow hdelays), .told hdelays (Nat.le_of_eq hnow.symm) hle⟩
  | ended htask =>
    rw [htask] at halive
    cases halive

/-- How a race comes out that has been called off. -/
theorem CalledOff.failedAt (h₀ : Racing ms taken (before ++ i :: after) g₀)
    (hregular₀ : Regular (plan ms []) none [] g₀) (hflat : ∀ m ∈ ms, m.isFlat = true)
    (hbefore : ∀ j ∈ before, (endingAt ms j).isOk = true) (hfailed : (endingAt ms i).isOk = false)
    (h : CalledOff ms g₀ (endingAt ms i) (ms.length - 1 - (taken ++ before).length) g)
    (hended : ∀ x, (g.tasks x).isAlive = false) : FailedAt ms (taken ++ before) i after g := by
  have hi : i ∈ before ++ i :: after := List.mem_append_right _ List.mem_cons_self
  obtain ⟨hnow, hduration⟩ := h₀.now_eq hregular₀ hflat hi hfailed
  have harrivals : DbLifecycle.arrivals g₀.entries = taken ++ before ++ i :: after := by
    rw [h₀.arrivals, List.append_assoc]
  refine ⟨h.arrivals.trans harrivals, ?_, fun j hj => ?_, hfailed, hduration, fun m hm hbad => ?_,
    ?_, ?_, h.later, fun j m hm => ?_⟩
  · rw [List.append_assoc]
    exact h₀.ordered
  · exact (List.mem_append.mp hj).elim (h₀.good j) (hbefore j)
  · refine Member.groupDuration_le_of_fails hm ?_
    rw [Member.fails_of_isFlat (hflat m hm), hbad]
    rfl
  · rw [← hnow]
    refine h.owner.resolve_left fun ⟨_, crew, htask, _⟩ => ?_
    have hroot := hended .root
    rw [htask] at hroot
    cases hroot
  · rw [← hnow]
    exact h.cancellings
  · have hlog := h.log_of_ended hm (hended _)
    rw [← hnow, ← harrivals]
    split
    · rename_i hmem
      obtain ⟨m', hm', hdead⟩ := (h₀.arrived j).mp hmem
      rw [hm] at hm'
      cases hm'
      obtain ⟨htold, htime⟩ := (h₀.standing j m hm).of_ended hdead
      rw [hlog, Task.eq_ended hdead, htold]
      exact ⟨htime, List.append_nil _⟩
    · rename_i hnot
      have halive : (g₀.tasks (.at j)).isAlive = true := by
        rw [← Bool.not_eq_false]
        exact fun hdead => hnot ((h₀.arrived j).mpr ⟨m, hm, hdead⟩)
      rw [hlog]
      exact h₀.cutAt hm halive

end CalledOff

/-! ## The order -/

namespace Ranked

variable {ms : List Member} {taken pending : List Nat} {g : Gathering} {i j : Nat} {m : Member}
  (h : Ranked ms pending g) (hsteady : Steady ms) (hracing : Racing ms taken pending g)
  (hregular : Regular (plan ms []) none [] g) (hflat : ∀ m ∈ ms, m.isFlat = true)

include hracing in
/-- A member that has come to an end has had all its turns. -/
theorem turnsUpTo_of_mem (hj : j ∈ arrivals g.entries) :
    turnsUpTo ms g.now j = turnsOf ms j := by
  rw [hracing.arrivals] at hj
  obtain ⟨m, hm, -, htime⟩ := hracing.log_of_mem hj
  exact turnsUpTo_of_le hm (Nat.le_trans m.delays_sum_le_duration htime)

include h hracing in
/-- Those that have come to an end have done so in the order of their turns. -/
theorem arrivals_pairwise : (arrivals g.entries).Pairwise (Ahead (turnsOf ms)) :=
  (List.pairwise_append.mp h.ended).1.imp_of_mem fun ha hb hahead =>
    hahead.congr (turnsUpTo_of_mem hracing ha).symm (turnsUpTo_of_mem hracing hb).symm

include h hsteady hracing hregular hflat

/-- When a member comes to an end, all that are ahead of it have done so. -/
theorem mem_arrivals_of_ahead (hi : i ∈ arrivals g.entries) (hnow : durationAt ms i = g.now)
    (hm : ms[j]? = some m) (hahead : Ahead (turnsOf ms) j i) : j ∈ arrivals g.entries := by
  have hover : m.delays.sum ≤ g.now := by
    obtain ⟨m', hm', -⟩ := (hracing.arrived i).mp hi
    obtain ⟨past, hpast⟩ := m.exists_turns_eq_cons
    obtain ⟨past', hpast'⟩ := m'.exists_turns_eq_cons
    rw [← turnsOf_of_getElem? hm] at hpast
    rw [← turnsOf_of_getElem? hm'] at hpast'
    rw [← hnow, durationAt_of_getElem? hm',
      Member.duration_of_isFlat (hflat m' (List.mem_of_getElem? hm'))]
    exact hahead.le_of_cons hpast hpast'
  have hqueue : .at j ∉ g.queue := fun hmem => by
    have hbehind := (List.pairwise_append.mp h.ended).2.2 i hi j
      (List.mem_map.mpr ⟨.at j, hmem, rfl⟩)
    exact hahead.asymm (hbehind.congr (turnsUpTo_of_mem hracing hi).symm
      (turnsUpTo_of_le hm hover).symm)
  cases hracing.standing j m hm with
  | fresh _ _ _ hmem => exact absurd hmem hqueue
  | @asleep done rest d hdelays _ _ _ _ hwakes =>
    rcases hwakes with ⟨hmem, -⟩ | ⟨-, hlt⟩
    · exact absurd hmem hqueue
    · have hle := Member.le_of_mem_turns (Member.next_turn hdelays).1
      omega
  | yielded _ _ _ _ hpause =>
    exact absurd hpause (hracing.not_yielded hsteady hregular (List.mem_of_getElem? hm))
  | ended htask => exact (hracing.arrived j).mpr ⟨m, hm, by rw [htask]; rfl⟩

/-! ## Rounds -/

section Failure

variable (hi : i ∈ pending) (hfailed : (endingAt ms i).isOk = false)
include hi hfailed

/-- By the time its owner looks at the results, those have had their turn that have it in the same
round as the member that fails, or before. -/
theorem card_acted (hround : g.queue = [] ∨ g.ran = round) :
    (g.acted ms).card ≤ round * (rankAt ms g.now i / round + 1) ∧
      (g.queue ≠ [] → (g.acted ms).card = round * (rankAt ms g.now i / round + 1)) := by
  obtain ⟨r, hcount, hfirst⟩ := h.rounds (.inr (List.ne_nil_of_mem hi))
  have hmem : i ∈ g.acted ms := by
    have harrived : i ∈ arrivals g.entries := by
      rw [hracing.arrivals]
      exact List.mem_append_right _ hi
    obtain ⟨m, hm, hdead⟩ := (hracing.arrived i).mp harrived
    obtain ⟨hnow, hduration⟩ := hracing.now_eq hregular hflat hi hfailed
    refine Finset.mem_filter.mpr ⟨mem_awake.mpr ⟨m, hm, ?_⟩, fun hqueue => ?_⟩
    · rw [hnow, ← hduration, durationAt_of_getElem? hm,
        Member.duration_of_isFlat (hflat m (List.mem_of_getElem? hm))]
      exact m.sum_mem_turns
    · rw [hregular.queued _ hqueue] at hdead
      cases hdead
  have hlt := h.rankAt_lt hsteady hracing hregular hmem
  have hran := hracing.ran_le
  have hle := hfirst i hi
  have hr : rankAt ms g.now i / round = r := by
    refine Nat.div_eq_of_lt_le (by rwa [Nat.mul_comm]) ?_
    rw [Nat.succ_mul, Nat.mul_comm]
    omega
  rw [hr, Nat.mul_succ, hcount]
  refine ⟨Nat.add_le_add_left hran _, fun hne => ?_⟩
  rw [hround.resolve_left hne]

/-- Those that have not had their turn by then are those that have it in a later round. -/
theorem missed_iff (hround : g.queue = [] ∨ g.ran = round) (hm : ms[j]? = some m) :
    Missed ms g.now i j ↔ .at j ∈ g.queue := by
  obtain ⟨hle, heq⟩ := h.card_acted hsteady hracing hregular hflat hi hfailed hround
  constructor
  · rintro ⟨hturn, hlate⟩
    by_contra hnot
    rw [turnsOf_of_getElem? hm] at hturn
    have hmem : j ∈ g.acted ms := Finset.mem_filter.mpr ⟨mem_awake.mpr ⟨m, hm, hturn⟩, hnot⟩
    have hlt := h.rankAt_lt hsteady hracing hregular hmem
    omega
  · intro hmem
    refine ⟨?_, ?_⟩
    · rw [turnsOf_of_getElem? hm]
      exact hracing.turn_of_queued hsteady hregular hm hmem
    · rw [← heq (List.ne_nil_of_mem hmem)]
      exact h.card_acted_le hsteady hracing hregular hmem

/-- What a member has recorded in the end: what there is to tell by the time at which the race is
called off or, if it is to have a turn at that time, before it. -/
theorem log_eq (hround : g.queue = [] ∨ g.ran = round) (hm : ms[j]? = some m) :
    (g.log (.at j) ++ if (g.tasks (.at j)).isUnderWay then [(g.now, Mark.cancelled)] else []) =
      if Missed ms g.now i j then
        (Member.opening 0 m.delays).filter (·.1 < g.now) ++
          if g.now = 0 then [] else [(g.now, .cancelled)]
      else if m.duration ≤ g.now then m.story 0 m.ending
      else (Member.opening 0 m.delays).filter (·.1 ≤ g.now) ++ [(g.now, .cancelled)] := by
  have hmissed := h.missed_iff hsteady hracing hregular hflat hi hfailed hround hm
  have hlater : ∀ {done rest : List Nat} {d : Nat} {q : Nat × Mark},
      q ∈ Member.stepMarks done.sum (d :: rest) → done.sum + d ≤ q.1 := fun {done rest d q} hq => by
    rcases List.mem_cons.mp hq with rfl | hq
    · exact Nat.le_refl _
    · exact (Member.le_of_mem_stepMarks hq).1
  cases hracing.standing j m hm with
  | fresh htask hlog hnow hqueue =>
    rw [if_pos (hmissed.mpr hqueue), htask, hlog, hnow]
    simp [Task.isUnderWay]
  | @asleep done rest d hdelays hd htask hlog hsince hwakes =>
    rw [htask, hlog, if_pos (show (Task.asleep _).isUnderWay = true from rfl)]
    rcases hwakes with ⟨hqueue, hnow⟩ | ⟨halarm, hlt⟩
    · rw [if_pos (hmissed.mpr hqueue), if_neg (by omega), hdelays, Member.opening_filter]
      · exact fun q hq => decide_eq_true (by omega)
      · exact fun q hq => decide_eq_false (by have := hlater hq; omega)
    · have hslow := Fits.sum_le_duration hdelays
      have hqueue : .at j ∉ g.queue := fun hmem => hracing.not_mem_alarms hregular hmem _ halarm
      rw [if_neg (mt hmissed.mp hqueue), if_neg (by omega), hdelays, Member.opening_filter]
      · exact fun q hq => decide_eq_true (by omega)
      · exact fun q hq => decide_eq_false (by have := hlater hq; omega)
  | yielded _ _ _ _ hpause =>
    exact absurd hpause (hracing.not_yielded hsteady hregular (List.mem_of_getElem? hm))
  | ended htask hlog htime =>
    have hqueue : .at j ∉ g.queue := fun hmem => by
      have halive := hregular.queued _ hmem
      rw [htask] at halive
      cases halive
    rw [if_neg (mt hmissed.mp hqueue), if_pos htime, htask, hlog]
    exact List.append_nil _

end Failure

end Ranked

section InOrder

variable {ms : List Member} {taken before after : List Nat} {i : Nat} {g₀ g : Gathering}

/-- Those that have come to an end before the first that fails are all that are ahead of it. -/
theorem Ranked.mem_before_iff (h : Ranked ms (before ++ i :: after) g₀) (hsteady : Steady ms)
    (hracing : Racing ms taken (before ++ i :: after) g₀)
    (hregular : Regular (plan ms []) none [] g₀) (hflat : ∀ m ∈ ms, m.isFlat = true)
    (hfailed : (endingAt ms i).isOk = false) {j : Nat} :
    j ∈ taken ++ before ↔ j < ms.length ∧ Ahead (turnsOf ms) j i := by
  have harrivals : arrivals g₀.entries = taken ++ before ++ i :: after := by
    rw [hracing.arrivals, List.append_assoc]
  have hsorted := h.arrivals_pairwise hracing
  rw [harrivals] at hsorted
  obtain ⟨-, hbehind, hahead⟩ := List.pairwise_append.mp hsorted
  constructor
  · intro hj
    obtain ⟨m, hm, -⟩ := (hracing.arrived j).mp (by rw [harrivals]; exact List.mem_append_left _ hj)
    exact ⟨(List.getElem?_eq_some_iff.mp hm).1, hahead j hj i List.mem_cons_self⟩
  · rintro ⟨hlt, hji⟩
    have hi : i ∈ before ++ i :: after := List.mem_append_right _ List.mem_cons_self
    obtain ⟨hnow, hduration⟩ := hracing.now_eq hregular hflat hi hfailed
    have hmem := h.mem_arrivals_of_ahead hsteady hracing hregular hflat
      (by rw [hracing.arrivals]; exact List.mem_append_right _ hi) (hduration.trans hnow.symm)
      (List.getElem?_eq_getElem hlt) hji
    rw [harrivals] at hmem
    refine (List.mem_append.mp hmem).resolve_right fun hafter => ?_
    rcases List.mem_cons.mp hafter with rfl | hafter
    · exact Ahead.irrefl _ j hji
    · exact hji.asymm ((List.pairwise_cons.mp hbehind).1 j hafter)

/-- How a race comes out that has been called off, if no member gives way. -/
theorem CalledOff.inOrder (h₀ : Racing ms taken (before ++ i :: after) g₀)
    (hranked : Ranked ms (before ++ i :: after) g₀) (hsteady : Steady ms)
    (hregular₀ : Regular (plan ms []) none [] g₀) (hflat : ∀ m ∈ ms, m.isFlat = true)
    (hround : g₀.queue = [] ∨ g₀.ran = round) (hbefore : ∀ j ∈ before, (endingAt ms j).isOk = true)
    (hfailed : (endingAt ms i).isOk = false)
    (h : CalledOff ms g₀ (endingAt ms i) (ms.length - 1 - (taken ++ before).length) g)
    (hended : ∀ x, (g.tasks x).isAlive = false) : InOrder ms i g := by
  have hi : i ∈ before ++ i :: after := List.mem_append_right _ List.mem_cons_self
  obtain ⟨hnow, -⟩ := h₀.now_eq hregular₀ hflat hi hfailed
  have hiff : ∀ {j}, j ∈ taken ++ before ↔ j < ms.length ∧ Ahead (turnsOf ms) j i :=
    hranked.mem_before_iff hsteady h₀ hregular₀ hflat hfailed
  have hgood : ∀ j ∈ taken ++ before, (endingAt ms j).isOk = true := fun j hj =>
    (List.mem_append.mp hj).elim (h₀.good j) (hbefore j)
  refine ⟨fun j hne hbad => ?_, ?_, fun j m hm => ?_⟩
  · refine (Ahead.total (turnsOf ms) hne).resolve_left fun hahead => ?_
    have hlt : j < ms.length := by
      by_contra hge
      rw [endingAt, List.getElem?_eq_none (Nat.le_of_not_lt hge)] at hbad
      cases hbad
    rw [hgood j (hiff.mpr ⟨hlt, hahead⟩)] at hbad
    cases hbad
  · have hnodup : (taken ++ before).Nodup := by
      have hsorted := hranked.arrivals_pairwise h₀
      rw [h₀.arrivals, ← List.append_assoc] at hsorted
      exact (List.pairwise_append.mp hsorted).1.imp Ahead.ne
    have hset : (taken ++ before).toFinset = (Finset.range ms.length).filter fun j =>
        (endingAt ms j).isOk = true ∧ Ahead (turnsOf ms) j i := Finset.ext fun j => by
      rw [List.mem_toFinset, Finset.mem_filter, Finset.mem_range]
      exact ⟨fun hj => ⟨(hiff.mp hj).1, hgood j hj, (hiff.mp hj).2⟩, fun hj =>
        hiff.mpr ⟨hj.1, hj.2.2⟩⟩
    rw [← hset, List.toFinset_card_of_nodup hnodup, ← hnow]
    exact h.cancellings
  · rw [h.log_of_ended hm (hended _), ← hnow]
    exact hranked.log_eq hsteady h₀ hregular₀ hflat hi hfailed hround hm

end InOrder

/-! ## The law of plain groups -/

/-- How a race comes out. -/
theorem gather_flat {ms : List Member} (hflat : ∀ m ∈ ms, m.isFlat = true) :
    Succeeded ms (gather ms []) ∧ Member.anyFails ms = false ∨
      ∃ before i after, FailedAt ms before i after (gather ms []) ∧
        (Steady ms → InOrder ms i (gather ms [])) := by
  have hended := Gathering.gather_ended ms []
  cases (Progress.start ms).steps hflat (Regular.start ms []) (Gathering.bound ms []) with
  | racing h =>
    obtain ⟨crew, htask, -⟩ := h.owner
    have hroot := hended .root
    rw [show (gather ms []).tasks .root = _ from htask] at hroot
    cases hroot
  | joined h =>
    obtain ⟨e, hreturned, hok, -⟩ := Gathering.gather_returned ms []
    obtain ⟨t, ht⟩ := h.returned
    rw [show (gather ms []).returned = _ from ht] at hreturned
    cases hreturned
    exact .inl ⟨⟨ht, h.members, h.cancellings, h.later⟩, hok.mp rfl⟩
  | calledOff h₀ hregular hranked hround hbefore hfailed h =>
    exact .inr ⟨_, _, _, h.failedAt h₀ hregular hflat hbefore hfailed hended, fun hsteady =>
      h.inOrder h₀ (hranked hsteady) hsteady hregular hflat hround hbefore hfailed hended⟩

/-- **The law of plain groups.** A group of operations without groups returns with success when all
have succeeded. If there are some that fail, it returns when the quickest of these do, with the
error or panic of the one that is the first in the records; all that end later are cancelled at that
time, once and for all. If none gives way, the first is the one whose turns come first: of those
that fail at the same time, the one whose turn before was earlier, and so on, and then the first of
them; and those that could still end at this time have done so if they have their turn in the same
round. -/
theorem gather_plain (ops : List (List Nat × Ending)) :
    let ms := ops.map fun op => Member.plain op.1 op.2
    if Member.anyFails ms = true then
      ∃ before i after, FailedAt ms before i after (gather ms []) ∧
        (Steady ms → InOrder ms i (gather ms []))
    else Succeeded ms (gather ms []) := by
  intro ms
  have hflat : ∀ m ∈ ms, m.isFlat = true := fun m hm => by
    obtain ⟨op, -, rfl⟩ := List.mem_map.mp hm
    rfl
  rcases gather_flat hflat with ⟨hsucceeded, hnone⟩ | ⟨before, i, after, hfailed, horder⟩
  · rw [hnone]
    exact hsucceeded
  · have hany : Member.anyFails ms = true := by
      have hbad := hfailed.failed
      cases hm : ms[i]? with
      | none =>
        rw [endingAt, hm] at hbad
        cases hbad
      | some m =>
        rw [endingAt_of_getElem? hm] at hbad
        have hmem := List.mem_of_getElem? hm
        refine Member.anyFails_iff.mpr ⟨m, hmem, ?_⟩
        rw [Member.fails_of_isFlat (hflat m hmem), hbad]
        rfl
    rw [if_pos hany]
    exact ⟨before, i, after, hfailed, horder⟩

/-- Two members fail at the same time, the second of them first. -/
theorem gather_plain_tie :
    let ms := [Member.plain [3, 2] (.error "a"), .plain [5] (.error "b"), .plain [2] (.ok ()),
      .plain [4, 4] (.ok ())]
    Steady ms ∧ ∃ before i after, FailedAt ms before i after (gather ms []) ∧
      InOrder ms i (gather ms []) := by
  intro ms
  have hsteady : Steady ms := by unfold Steady; decide
  have hlaw := gather_plain [([3, 2], .error "a"), ([5], .error "b"), ([2], .ok ()),
    ([4, 4], .ok ())]
  obtain ⟨before, i, after, hfailed, horder⟩ := (if_pos (by decide)).mp hlaw
  exact ⟨hsteady, before, i, after, hfailed, horder hsteady⟩

/-- Neither is the failure that surfaces always the first by time and place, nor do all that take no
longer come to an end: of two that fail at the same time, the second surfaces if its turn before was
earlier, or if the first has too much to do in one turn; and of many that have a turn at the same
time, the last ones may not have it before the rest is cancelled. -/
theorem failure_not_by_place :
    let tie := [Member.plain [3, 2] (.error "a"), .plain [5] (.error "b")]
    let busy := [Member.plain (List.replicate 129 0) (.error "a"), .plain [0] (.error "b")]
    let many := Member.plain [] (.error "a") :: List.replicate 61 (.plain [] (.ok ()))
    (durationAt tie 0 = 5 ∧ durationAt tie 1 = 5 ∧ endingAt tie 0 = .error "a" ∧
      (gather tie []).returned = some (5, .error "b")) ∧
    (durationAt busy 0 = 0 ∧ durationAt busy 1 = 0 ∧ endingAt busy 0 = .error "a" ∧
      (gather busy []).returned = some (0, .error "b")) ∧
    durationAt many 0 = 0 ∧ durationAt many 61 = 0 ∧ endingAt many 0 = .error "a" ∧
      (gather many []).returned = some (0, .error "a") ∧ (gather many []).log (.at 61) = [] := by
  refine ⟨⟨?_, ?_, ?_, ?_⟩, ⟨?_, ?_, ?_, ?_⟩, ?_, ?_, ?_, ?_, ?_⟩ <;> decide +kernel

end DbLifecycle
