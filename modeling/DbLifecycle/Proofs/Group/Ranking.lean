import Mathlib.Data.Finset.Card
import DbLifecycle.Proofs.Group.Course

/-!
# Who is first in a race

Unless a member gives way, those that have a turn at the same time have it in the order of their
turns, in rounds, and those that have ended have done so in this order.

* `awake`, `rankAt`: the members that have a turn at a time, and how many of them come before one.
* `Ranked`: what holds of the order until the owner sees a failure.
* `Ranked.move`, `Ranked.waited`, `Ranked.look`: a step leaves it so.
-/

namespace DbLifecycle

open Gathering

/-! ## Turns at a time -/

/-- The members that have a turn at a time. -/
def awake (ms : List Member) (t : Nat) : Finset Nat :=
  (Finset.range ms.length).filter (t ∈ turnsOf ms ·)

/-- How many of the members that have a turn at a time come before one. -/
def rankAt (ms : List Member) (t i : Nat) : Nat :=
  ((awake ms t).filter (Ahead (turnsUpTo ms t) · i)).card

/-- No member of a group gives way before the group returns. -/
def Steady (ms : List Member) : Prop :=
  ∀ m ∈ ms, ∀ u ∈ m.pause?, Member.groupDuration ms < u

theorem mem_awake {ms : List Member} {t i : Nat} :
    i ∈ awake ms t ↔ ∃ m, ms[i]? = some m ∧ t ∈ m.turns := by
  rw [awake, Finset.mem_filter, Finset.mem_range]
  constructor
  · rintro ⟨hlt, hmem⟩
    have hm := List.getElem?_eq_getElem hlt
    rw [turnsOf_of_getElem? hm] at hmem
    exact ⟨_, hm, hmem⟩
  · rintro ⟨m, hm, hmem⟩
    rw [turnsOf_of_getElem? hm]
    exact ⟨(List.getElem?_eq_some_iff.mp hm).1, hmem⟩

namespace Gathering

/-- The members that have had their turn at this time. -/
def acted (ms : List Member) (g : Gathering) : Finset Nat :=
  (awake ms g.now).filter (.at · ∉ g.queue)

/-- A queue to which some are added that are not in it. -/
theorem foldl_enqueue_of_nodup {q ids : List TaskId} (h : (q ++ ids).Nodup) :
    ids.foldl enqueue q = q ++ ids := by
  induction ids generalizing q with
  | nil => exact (List.append_nil q).symm
  | cons id ids ih =>
    have hnot : id ∉ q := fun hmem =>
      (List.nodup_append.mp h).2.2 id hmem id List.mem_cons_self rfl
    rw [List.foldl_cons, enqueue, if_neg hnot, ih (by simpa using h), List.append_assoc]
    rfl

end Gathering

/-! ## The order -/

/-- What holds of the order in a race until its owner sees a failure. -/
structure Ranked (ms : List Member) (pending : List Nat) (g : Gathering) : Prop where
  asleep : (g.alarms.map (·.2.place) ++ g.queue.map TaskId.place).Pairwise
    (Ahead (turnsUpTo ms g.now))
  ended : (arrivals g.entries ++ g.queue.map TaskId.place).Pairwise (Ahead (turnsUpTo ms g.now))
  /-- As many have had their turn as there are in the rounds before this one and in this one, and
  all results that are pending are of this one. -/
  rounds : g.queue ≠ [] ∨ pending ≠ [] → ∃ r, (g.acted ms).card = round * r + g.ran ∧
    ∀ i ∈ pending, round * r ≤ rankAt ms g.now i

section Facts

variable {ms : List Member} {taken pending : List Nat} {g g' : Gathering} {i : Nat} {m : Member}
  {rest : List TaskId}

namespace Racing

/-- The race is on no longer than is to be expected. -/
theorem now_le (h : Racing ms taken pending g) (hregular : Regular (plan ms []) none [] g) :
    g.now ≤ Member.groupDuration ms := by
  obtain ⟨crew, htask, -⟩ := h.owner
  obtain ⟨-, -, -, -, hnow, -⟩ := (hregular.fit (plan_root ms [])).of_waiting htask
  have hnow' : g.now ≤ 0 + (Member.grouped [] ms (.ok ())).duration := hnow
  simpa [Member.duration_eq, Member.delays, Member.children] using hnow'

/-- A member that has come to an end has had all its turns. -/
theorem lt_of_mem_arrivals (h : Racing ms taken pending g) {t v : Nat} (hlt : g.now < t)
    (hi : i ∈ DbLifecycle.arrivals g.entries) (hv : v ∈ turnsOf ms i) : v < t := by
  rw [h.arrivals] at hi
  obtain ⟨m, hm, -, htime⟩ := h.log_of_mem hi
  rw [turnsOf_of_getElem? hm] at hv
  have hle := Member.le_of_mem_turns hv
  have := m.delays_sum_le_duration
  omega

variable (hsteady : Steady ms)
include hsteady

/-- No member gives way. -/
theorem not_yielded (h : Racing ms taken pending g) (hregular : Regular (plan ms []) none [] g)
    (hm : m ∈ ms) : ¬ ∃ u ∈ m.pause?, u ≤ g.now := fun ⟨u, hu, hle⟩ => by
  have hlt := hsteady m hm u hu
  have hnow := h.now_le hregular
  omega

theorem deferred_eq_nil (h : Racing ms taken pending g)
    (hregular : Regular (plan ms []) none [] g) : g.deferred = [] := by
  refine List.eq_nil_iff_forall_not_mem.mpr fun x hx => ?_
  obtain ⟨i, m, hm, -, hpause⟩ := h.deferred x hx
  exact h.not_yielded hsteady hregular (List.mem_of_getElem? hm) hpause

/-- A member is in the queue and has a turn, or it sleeps, or it has come to an end. -/
theorem whereabouts (h : Racing ms taken pending g) (hregular : Regular (plan ms []) none [] g)
    (hm : ms[i]? = some m) :
    .at i ∈ g.queue ∧ g.now ∈ m.turns ∨ (∃ u, (u, .at i) ∈ g.alarms) ∨
      i ∈ DbLifecycle.arrivals g.entries := by
  cases h.standing i m hm with
  | fresh _ _ hnow hqueue => exact .inl ⟨hqueue, hnow ▸ m.zero_mem_turns⟩
  | asleep hdelays _ _ _ _ hwakes =>
    rcases hwakes with ⟨hqueue, hnow⟩ | ⟨halarm, -⟩
    · exact .inl ⟨hqueue, hnow ▸ (Member.next_turn hdelays).1⟩
    · exact .inr (.inl ⟨_, halarm⟩)
  | yielded _ _ _ _ hpause =>
    exact absurd hpause (h.not_yielded hsteady hregular (List.mem_of_getElem? hm))
  | ended htask => exact .inr (.inr ((h.arrived i).mpr ⟨m, hm, by rw [htask]; rfl⟩))

/-- A member that is in the queue has a turn. -/
theorem turn_of_queued (h : Racing ms taken pending g) (hregular : Regular (plan ms []) none [] g)
    (hm : ms[i]? = some m) (hqueue : .at i ∈ g.queue) : g.now ∈ m.turns := by
  rcases h.whereabouts hsteady hregular hm with ⟨-, hturn⟩ | ⟨u, hu⟩ | hended
  · exact hturn
  · exact absurd hu (h.not_mem_alarms hregular hqueue u)
  · exact absurd hended (h.notMem_arrivals (hregular.queued _ hqueue))

/-- When the first in the queue has its turn, there is one more that has had it. -/
theorem card_acted_move (h : Racing ms taken pending g)
    (hregular : Regular (plan ms []) none [] g) (hm : ms[i]? = some m)
    (hqueue : g.queue = .at i :: rest) (hnow : g'.now = g.now) (hrest : g'.queue = rest) :
    (g'.acted ms).card = (g.acted ms).card + 1 := by
  have hmem : .at i ∈ g.queue := by rw [hqueue]; exact List.mem_cons_self
  have hawake : i ∈ awake ms g.now :=
    mem_awake.mpr ⟨m, hm, h.turn_of_queued hsteady hregular hm hmem⟩
  have hnot : i ∉ g.acted ms := fun hi => (Finset.mem_filter.mp hi).2 hmem
  have hgone : .at i ∉ rest := by
    have hnodup := hregular.nodup
    rw [hqueue] at hnodup
    exact (List.nodup_cons.mp hnodup).1
  rw [← Finset.card_insert_of_notMem hnot]
  refine congrArg Finset.card (Finset.ext fun j => ?_)
  rw [Finset.mem_insert, acted, acted, Finset.mem_filter, Finset.mem_filter, hnow, hrest, hqueue,
    List.mem_cons, not_or]
  by_cases hij : j = i
  · subst hij
    exact iff_of_true ⟨hawake, hgone⟩ (.inl rfl)
  · have hne : TaskId.at j ≠ .at i := TaskId.at_injective.ne hij
    simp only [hij, false_or, hne, not_false_eq_true, true_and]

/-- An alarm is for the next turn of a member. -/
theorem next_turn_of_alarm (h : Racing ms taken pending g)
    (hregular : Regular (plan ms []) none [] g) (hflat : ∀ m ∈ ms, m.isFlat = true)
    (hrest : g.AtRest) {u : Nat} {x : TaskId} (hu : (u, x) ∈ g.alarms) :
    ∃ i m, ms[i]? = some m ∧ x = .at i ∧ g.now < u ∧ u ∈ m.turns ∧
      ∀ v ∈ m.turns, g.now < v → u ≤ v := by
  obtain ⟨-, halive, hroot, -⟩ := hregular.alarm_spec hu
  obtain ⟨i, m, hm, rfl⟩ := hregular.exists_at hflat halive hroot
  refine ⟨i, m, hm, rfl, ?_⟩
  cases h.standing i m hm with
  | fresh _ _ _ hqueue =>
    rw [hrest.queue] at hqueue
    cases hqueue
  | @asleep done rest d hdelays _ _ _ hsince hwakes =>
    obtain ⟨halarm, hlt⟩ := hwakes.resolve_left fun hin => by
      rw [hrest.queue] at hin
      cases hin.1
    have hu : u = done.sum + d := by
      cases hregular.fit (plan_at hm) with
      | asleep _ _ _ _ honly => exact (honly u hu).trans (honly _ halarm).symm
      | fresh _ _ _ _ hnone | yielded _ _ _ _ _ hnone | waiting _ _ _ _ _ _ _ _ hnone
      | ended _ _ hnone => exact absurd hu (hnone u)
    obtain ⟨hmem, hnext⟩ := Member.next_turn hdelays
    rw [hu]
    exact ⟨hlt, hmem, fun v hv hnow => hnext v hv (Nat.lt_of_le_of_lt hsince hnow)⟩
  | yielded _ _ _ _ hpause =>
    exact absurd hpause (h.not_yielded hsteady hregular (List.mem_of_getElem? hm))
  | ended htask =>
    rw [htask] at halive
    cases halive

section Wait

variable (hracing : Racing ms taken pending g) (hregular : Regular (plan ms []) none [] g)
  (hflat : ∀ m ∈ ms, m.isFlat = true) (hrest : g.AtRest) {a : Nat × TaskId} {t : Nat}
include hracing hregular hflat hrest

/-- A member that sleeps on has no turn. -/
theorem turnsUpTo_of_late (ha : a ∈ g.alarms.filter (t < ·.1)) (hpast : g.now ≤ t) :
    turnsUpTo ms t a.2.place = turnsUpTo ms g.now a.2.place := by
  obtain ⟨hmem, hlt⟩ := List.mem_filter.mp ha
  obtain ⟨i, m, hm, hx, -, -, hnext⟩ :=
    hracing.next_turn_of_alarm hsteady hregular hflat hrest hmem
  rw [hx, TaskId.place_at, turnsUpTo_of_getElem? hm, turnsUpTo_of_getElem? hm]
  refine Member.turns_upTo_gap hpast fun v hv hnow => ?_
  exact Nat.lt_of_lt_of_le (by simpa using hlt) (hnext v hv hnow)

/-- A member that is due has a turn. -/
theorem turnsUpTo_of_due (ha : a ∈ g.alarms.filter (·.1 ≤ t))
    (hleast : ∀ u x, (u, x) ∈ g.alarms → t ≤ u) :
    g.now < t ∧ turnsUpTo ms t a.2.place = t :: turnsUpTo ms g.now a.2.place := by
  obtain ⟨hmem, hle⟩ := List.mem_filter.mp ha
  obtain ⟨i, m, hm, hx, hlt, hturn, hnext⟩ :=
    hracing.next_turn_of_alarm hsteady hregular hflat hrest hmem
  have heq : a.1 = t := Nat.le_antisymm (by simpa using hle) (hleast _ _ hmem)
  rw [heq] at hlt hturn hnext
  rw [hx, TaskId.place_at, turnsUpTo_of_getElem? hm, turnsUpTo_of_getElem? hm]
  exact ⟨hlt, Member.turns_upTo_next hturn hlt hnext⟩

/-- A member that has a turn is among those that are due. -/
theorem mem_queue_waited (hlt : g.now < t) (hi : i ∈ awake ms t) : .at i ∈ (g.waited t).queue := by
  obtain ⟨m, hm, hturn⟩ := mem_awake.mp hi
  rcases hracing.whereabouts hsteady hregular hm with ⟨hin, -⟩ | ⟨u, hu⟩ | hover
  · rw [hrest.queue] at hin
    cases hin
  · obtain ⟨i, m', hm', hx, -, -, hnext⟩ :=
      hracing.next_turn_of_alarm hsteady hregular hflat hrest hu
    obtain rfl := TaskId.at_injective hx
    rw [hm] at hm'
    cases hm'
    exact hrest.mem_queue_waited.mpr ⟨u, hu, hnext t hturn hlt⟩
  · rw [← turnsOf_of_getElem? hm] at hturn
    exact absurd (hracing.lt_of_mem_arrivals hlt hover hturn) (Nat.lt_irrefl t)

end Wait

end Racing

namespace Ranked

/-- Those that have their turn at this time come one after the other. -/
theorem ahead_of_queue (h : Ranked ms pending g) (hqueue : g.queue = .at i :: rest) {j : Nat}
    (hj : .at j ∈ rest) : Ahead (turnsUpTo ms g.now) i j := by
  have hsorted := (List.pairwise_append.mp h.asleep).2.1
  rw [hqueue, List.map_cons, List.pairwise_cons] at hsorted
  exact hsorted.1 j (List.mem_map.mpr ⟨.at j, hj, rfl⟩)

section Steady

variable (h : Ranked ms pending g) (hsteady : Steady ms) (hracing : Racing ms taken pending g)
  (hregular : Regular (plan ms []) none [] g)
include h hsteady hracing hregular

/-- Those that have had their turn come before those that have not. -/
theorem ahead_of_acted {j : Nat} (hj : j ∈ g.acted ms) (hi : .at i ∈ g.queue) :
    Ahead (turnsUpTo ms g.now) j i := by
  obtain ⟨hawake, hnot⟩ := Finset.mem_filter.mp hj
  obtain ⟨m, hm, -⟩ := mem_awake.mp hawake
  have hplace : i ∈ g.queue.map TaskId.place := List.mem_map.mpr ⟨.at i, hi, rfl⟩
  rcases (hracing.whereabouts hsteady hregular hm).resolve_left fun hin => hnot hin.1 with
    ⟨u, hu⟩ | hended
  · exact (List.pairwise_append.mp h.asleep).2.2 j
      (List.mem_map.mpr ⟨(u, .at j), hu, rfl⟩) i hplace
  · exact (List.pairwise_append.mp h.ended).2.2 j hended i hplace

/-- Whoever has not had its turn comes after all that have. -/
theorem card_acted_le (hi : .at i ∈ g.queue) : (g.acted ms).card ≤ rankAt ms g.now i := by
  refine Finset.card_le_card fun j hj => Finset.mem_filter.mpr ⟨(Finset.mem_filter.mp hj).1, ?_⟩
  exact h.ahead_of_acted hsteady hracing hregular hj hi

/-- Whoever has had its turn is among the first. -/
theorem rankAt_lt (hi : i ∈ g.acted ms) : rankAt ms g.now i < (g.acted ms).card := by
  have hsub : (awake ms g.now).filter (Ahead (turnsUpTo ms g.now) · i) ⊆ g.acted ms := by
    intro j hj
    obtain ⟨hawake, hahead⟩ := Finset.mem_filter.mp hj
    refine Finset.mem_filter.mpr ⟨hawake, fun hmem => ?_⟩
    exact hahead.asymm (h.ahead_of_acted hsteady hracing hregular hi hmem)
  exact Finset.card_lt_card ((Finset.ssubset_iff_of_subset hsub).mpr
    ⟨i, hi, fun hmem => Ahead.irrefl _ i (Finset.mem_filter.mp hmem).2⟩)

/-- The first in the queue comes next. -/
theorem rankAt_head (hqueue : g.queue = .at i :: rest) :
    rankAt ms g.now i = (g.acted ms).card := by
  refine congrArg Finset.card (Finset.filter_congr fun j hj =>
    ⟨fun hahead hmem => ?_, fun hnot => ?_⟩)
  · rw [hqueue, List.mem_cons] at hmem
    rcases hmem with heq | hmem
    · exact hahead.ne (TaskId.at_injective heq)
    · exact hahead.asymm (h.ahead_of_queue hqueue hmem)
  · exact h.ahead_of_acted hsteady hracing hregular (Finset.mem_filter.mpr ⟨hj, hnot⟩)
      (by rw [hqueue]; exact List.mem_cons_self)

/-! ## Steps -/

/-- **The turn of a member** leaves the order as it is. -/
theorem move {ran : Nat} {pending' : List Nat} (hm : ms[i]? = some m)
    (hqueue : g.queue = .at i :: rest)
    (hran : ran = g.ran + 1 ∨ g.ran = round ∧ pending = [] ∧ ran = 1)
    (hmoved : Moved i m { g with queue := rest, ran, left := stamina } g')
    (hnext : Racing ms taken pending' g') : Ranked ms pending' g' := by
  have hrounds : g'.now = g.now → g'.queue = rest → g'.ran = ran →
      (∀ j ∈ pending', j ∈ pending ∨ j = i) →
      ∃ r, (g'.acted ms).card = round * r + g'.ran ∧
        ∀ j ∈ pending', round * r ≤ rankAt ms g'.now j := fun hnow hrest hran' hpending => by
    obtain ⟨r, hcount, hold⟩ := h.rounds (.inl (by rw [hqueue]; exact List.cons_ne_nil _ _))
    have hone := hracing.card_acted_move hsteady hregular hm hqueue hnow hrest
    have hlast := h.rankAt_head hsteady hracing hregular hqueue
    rw [hnow, hran']
    rcases hran with rfl | ⟨hround, rfl, rfl⟩
    · refine ⟨r, by omega, fun j hj => ?_⟩
      rcases hpending j hj with hj | rfl
      · exact hold j hj
      · omega
    · refine ⟨r + 1, by rw [hone, hcount, hround]; rfl, fun j hj => ?_⟩
      rw [(hpending j hj).resolve_left List.not_mem_nil, hlast, hcount, hround]
      exact Nat.le_refl _
  have hasleep := h.asleep
  have hended := h.ended
  rw [hqueue, List.map_cons] at hasleep hended
  cases hmoved with
  | ended kept hsum htask hlog harrivals halarms hdeferred hnext' =>
    have hpending : pending' = pending ++ [i] := by
      have heq := hnext.arrivals
      rw [harrivals, hracing.arrivals, List.append_assoc] at heq
      exact (List.append_cancel_left heq).symm
    refine ⟨?_, ?_, fun _ => hrounds kept.now kept.queue kept.ran fun j hj => ?_⟩
    · rw [kept.now, kept.queue, halarms]
      exact hasleep.sublist ((List.sublist_cons_self _ _).append_left _)
    · rw [kept.now, kept.queue, harrivals, List.append_assoc]
      exact hended
    · simpa [hpending] using hj
  | asleep kept hdelays hd hsum htask hlog harrivals halarms hdeferred hnext' =>
    have hpending : pending' = pending := by
      have heq := hnext.arrivals
      rw [harrivals, hracing.arrivals] at heq
      exact (List.append_cancel_left heq).symm
    refine ⟨?_, ?_, fun _ => hrounds kept.now kept.queue kept.ran fun j hj => ?_⟩
    · rw [kept.now, kept.queue, halarms, List.map_append, List.append_assoc]
      exact hasleep
    · rw [kept.now, kept.queue, harrivals]
      exact hended.sublist ((List.sublist_cons_self _ _).append_left _)
    · exact .inl (hpending ▸ hj)
  | yielded _ _ _ hpause =>
    have hstays := hracing.not_yielded hsteady hregular (List.mem_of_getElem? hm)
    exact absurd hpause hstays

section Wait

variable (hflat : ∀ m ∈ ms, m.isFlat = true) (hrest : g.AtRest) {t : Nat}

omit hsteady hracing hregular in
include hrest in
/-- Those that are due are called in the order in which they fell asleep. -/
theorem queue_waited (t : Nat) : (g.waited t).queue = g.due t := by
  have hasleep := h.asleep
  rw [hrest.queue, List.map_nil, List.append_nil] at hasleep
  have hplaces : ((g.due t).map TaskId.place).Nodup := by
    rw [due, List.map_map]
    exact (hasleep.imp Ahead.ne).sublist (List.filter_sublist.map _)
  show (g.due t).foldl enqueue g.queue = _
  rw [hrest.queue]
  exact foldl_enqueue_of_nodup (hplaces.of_map _)

include hflat hrest

/-- Those that are due come in the order in which they fell asleep. -/
theorem due_pairwise (hleast : ∀ u x, (u, x) ∈ g.alarms → t ≤ u) :
    ((g.due t).map TaskId.place).Pairwise (Ahead (turnsUpTo ms t)) := by
  have hasleep := h.asleep
  rw [hrest.queue, List.map_nil, List.append_nil, List.pairwise_map] at hasleep
  rw [due, List.map_map, List.pairwise_map]
  refine (hasleep.sublist List.filter_sublist).imp_of_mem fun ha hb hahead => ?_
  exact hahead.cons (hracing.turnsUpTo_of_due hsteady hregular hflat hrest ha hleast).2
    (hracing.turnsUpTo_of_due hsteady hregular hflat hrest hb hleast).2

omit h in
/-- All others have had their last turn before. -/
theorem ahead_of_due (hleast : ∀ u x, (u, x) ∈ g.alarms → t ≤ u) {j : Nat}
    (hj : g.now < t → ∀ v ∈ turnsUpTo ms t j, v < t) (hi : i ∈ (g.due t).map TaskId.place) :
    Ahead (turnsUpTo ms t) j i := by
  rw [due, List.map_map] at hi
  obtain ⟨a, ha, rfl⟩ := List.mem_map.mp hi
  obtain ⟨hlt, hturns⟩ := hracing.turnsUpTo_of_due hsteady hregular hflat hrest ha hleast
  exact .of_forall_lt (hj hlt) hturns

/-- **When nothing can run**, those that are due have a turn, one after the other. -/
theorem waited (hpast : g.now ≤ t) (hleast : ∀ u x, (u, x) ∈ g.alarms → t ≤ u) :
    Ranked ms [] (g.waited t) := by
  have hqueue := h.queue_waited hrest t
  have hdue := h.due_pairwise hsteady hracing hregular hflat hrest hleast
  have hasleep := h.asleep
  have hended := h.ended
  rw [hrest.queue, List.map_nil, List.append_nil] at hasleep hended
  rw [List.pairwise_map] at hasleep
  have hlate : ∀ a ∈ g.alarms.filter (t < ·.1),
      turnsUpTo ms t a.2.place = turnsUpTo ms g.now a.2.place := fun a ha =>
    hracing.turnsUpTo_of_late hsteady hregular hflat hrest ha hpast
  refine ⟨?_, ?_, fun hne => ⟨0, ?_, nofun⟩⟩
  · rw [hqueue]
    refine List.pairwise_append.mpr ⟨?_, hdue, fun j hj i hi => ?_⟩
    · rw [List.pairwise_map]
      exact (hasleep.sublist List.filter_sublist).imp_of_mem fun ha hb hahead =>
        hahead.congr (hlate _ ha) (hlate _ hb)
    · refine ahead_of_due hsteady hracing hregular hflat hrest hleast (fun hlt v hv => ?_) hi
      obtain ⟨a, ha, rfl⟩ := List.mem_map.mp hj
      rw [hlate a ha] at hv
      exact Nat.lt_of_le_of_lt (by simpa using (List.mem_filter.mp hv).2) hlt
  · rw [hqueue]
    have hover : ∀ j ∈ arrivals g.entries, turnsUpTo ms t j = turnsUpTo ms g.now j := fun j hj =>
      List.filter_congr fun v hv => by
        have hlt := hracing.lt_of_mem_arrivals (Nat.lt_succ_self _) hj hv
        rw [decide_eq_decide]
        omega
    refine List.pairwise_append.mpr ⟨?_, hdue, fun j hj i hi => ?_⟩
    · exact hended.imp_of_mem fun ha hb hahead => hahead.congr (hover _ ha) (hover _ hb)
    · exact ahead_of_due hsteady hracing hregular hflat hrest hleast (fun hlt v hv =>
        hracing.lt_of_mem_arrivals hlt hj (List.mem_filter.mp hv).1) hi
  · have hlt : g.now < t := by
      obtain ⟨x, hx⟩ := List.exists_mem_of_ne_nil _ (hne.resolve_right fun hne => hne rfl)
      rw [hqueue, due] at hx
      obtain ⟨a, ha, -⟩ := List.mem_map.mp hx
      exact (hracing.turnsUpTo_of_due hsteady hregular hflat hrest ha hleast).1
    refine Finset.card_eq_zero.mpr (Finset.filter_eq_empty_iff.mpr fun j hj hnot => hnot ?_)
    exact hracing.mem_queue_waited hsteady hregular hflat hrest hlt hj

end Wait

end Steady

/-- At the beginning all have a turn, and none has had it. -/
theorem ready (ms : List Member) : Ranked ms [] (Gathering.ready ms []) := by
  have hqueue : (Gathering.ready ms []).queue = (List.range' 0 ms.length).map TaskId.at := by
    refine (foldl_enqueue_of_nodup ?_).trans (List.nil_append _)
    exact (List.nodup_range' 1).map TaskId.at_injective
  have hsorted : ((Gathering.ready ms []).queue.map TaskId.place).Pairwise
      (Ahead (turnsUpTo ms 0)) := by
    rw [hqueue, List.map_map, show TaskId.place ∘ TaskId.at = id from rfl, List.map_id]
    refine (List.pairwise_lt_range' 1).imp_of_mem fun {i j} hi hj hlt => .inr ⟨?_, hlt⟩
    have hturns : ∀ k ∈ List.range' 0 ms.length, turnsUpTo ms 0 k = [0] := fun k hk => by
      rw [List.mem_range'_1, Nat.zero_add] at hk
      rw [turnsUpTo_of_getElem? (List.getElem?_eq_getElem hk.2), Member.turns_upTo_zero]
    rw [hturns i hi, hturns j hj]
  refine ⟨hsorted, hsorted, fun _ => ⟨0, ?_, nofun⟩⟩
  refine Finset.card_eq_zero.mpr (Finset.filter_eq_empty_iff.mpr fun j hj hnot => hnot ?_)
  obtain ⟨m, hm, -⟩ := mem_awake.mp hj
  exact (mem_ready_queue ms []).mpr (.inr ⟨j, (List.getElem?_eq_some_iff.mp hm).1, rfl⟩)

/-- A look at the results, before a round or after it, does not change the order. -/
theorem look (h : Ranked ms pending g) (hround : g.queue = [] ∨ g.ran = 0 ∨ g.ran = round)
    (hnow : g'.now = g.now) (halarms : g'.alarms = g.alarms) (hran : g'.ran = 0)
    (hqueue : g'.queue = g.queue) (harrivals : arrivals g'.entries = arrivals g.entries) :
    Ranked ms [] g' where
  asleep := by
    rw [hnow, halarms, hqueue]
    exact h.asleep
  ended := by
    rw [hnow, harrivals, hqueue]
    exact h.ended
  rounds hne := by
    rw [hqueue] at hne
    have hne := hne.resolve_right fun hne => hne rfl
    obtain ⟨r, hcount, -⟩ := h.rounds (.inl hne)
    rw [acted, hnow, hqueue, ← acted, hcount, hran]
    rcases hround.resolve_left hne with hzero | hfull
    · exact ⟨r, by rw [hzero], nofun⟩
    · exact ⟨r + 1, by rw [hfull]; rfl, nofun⟩

end Ranked

end Facts

end DbLifecycle
