import DbLifecycle.Proofs.Group.CallOff

/-!
# The course of a race

What a step of a race comes to, from the beginning on.

* `Racing.ready`, `Racing.start`: the beginning.
* `Racing.Advanced`, `Racing.step`: a member has its turn, time passes, or the owner looks at its
  results.
-/

namespace DbLifecycle

open Gathering

namespace Racing

variable {ms : List Member} {taken pending : List Nat} {g g' : Gathering}

/-! ## The beginning -/

/-- All members have been started, and nothing has been done. -/
theorem ready (ms : List Member) : Racing ms [] [] (Gathering.ready ms []) where
  returned := rfl
  doomed := rfl
  standing i m hm := .fresh (ready_member ms [] hm) rfl rfl
    ((mem_ready_queue ms []).mpr (.inr ⟨i, (List.getElem?_eq_some_iff.mp hm).1, rfl⟩))
  deferred x hx := absurd hx List.not_mem_nil
  owner := ⟨_, ready_root ms [], rfl, rfl, rfl, by simp [Crew.size, Crew.ofSize]⟩
  arrivals := rfl
  arrived i := by
    refine iff_of_false List.not_mem_nil ?_
    rintro ⟨m, hm, hended⟩
    rw [ready_member ms [] hm] at hended
    cases hended
  ordered := .nil
  good i hi := absurd hi List.not_mem_nil
  pending_le := Nat.le_refl _
  ran_le := Nat.zero_le _
  cancellings := rfl

/-- The owner looks at its results before any member has its turn. -/
theorem start (ms : List Member) : Looked ms [] [] (Gathering.ready ms [])
    (Gathering.ready ms []).queue (Gathering.start ms []) := by
  rw [start_eq]
  exact (ready ms).review (List.Subset.refl _) (Regular.ready ms [])

/-! ## Steps -/

/-- Those that gave way are called back, and the owner looks at its results if it is called. -/
theorem turnRound (h : Racing ms taken pending g) (hregular : Regular (plan ms []) none [] g) :
    ∃ queue, (g.deferred = [] → queue = g.queue) ∧ Looked ms taken pending g queue g.turnRound := by
  obtain ⟨queue, heq, hqueue⟩ : ∃ queue,
      g.deferred.foldl resume { g with ran := 0, deferred := [] } =
        { g with ran := 0, deferred := [], queue } ∧ g.queue ⊆ queue :=
    resumeAll_of_not_waiting fun x hx => by
      obtain ⟨i, m, hm, rfl, -⟩ := h.deferred x hx
      exact ⟨TaskId.child_ne_root _ i, h.isWaiting hm⟩
  refine ⟨queue, fun hnil => ?_, ?_⟩
  · rw [hnil] at heq
    exact (congrArg Gathering.queue heq).symm
  · unfold Gathering.turnRound
    dsimp only
    rw [heq]
    split
    · exact h.review hqueue hregular
    · rename_i hcalled
      have hnil := h.pending_of_not_called hregular (by simpa using hcalled)
      subst hnil
      refine .on ?_ rfl rfl rfl rfl rfl
      rw [List.append_nil]
      exact
      { h with
        standing := fun i m hm => (h.standing i m hm).congr rfl rfl rfl (fun hx => hqueue hx)
          fun _ hu => hu
        deferred := nofun
        pending_le := Nat.le_refl _
        ran_le := Nat.zero_le _ }

/-- What a step of a race comes to: a member has its turn, time passes until the next one wakes,
nothing happens, or a round is over and the owner looks at its results. -/
inductive Advanced (ms : List Member) (taken pending : List Nat) (g g' : Gathering) : Prop
  | moved {i : Nat} {m : Member} {rest : List TaskId} {ran : Nat} {pending' : List Nat}
      (h : Racing ms taken pending' g') (hm : ms[i]? = some m) (hqueue : g.queue = .at i :: rest)
      (hran : ran = g.ran + 1 ∨ g.ran = round ∧ pending = [] ∧ ran = 1)
      (hmoved : Moved i m { g with queue := rest, ran, left := stamina } g')
  | waited {t : Nat} (h : Racing ms taken [] g') (hrest : g.AtRest) (hpending : pending = [])
      (hnow : g.now ≤ t) (hleast : ∀ u x, (u, x) ∈ g.alarms → t ≤ u) (heq : g' = g.waited t)
  | still (heq : g' = g)
  | looked {queue : List TaskId} (hround : g.queue = [] ∨ g.ran = round)
      (hqueue : g.deferred = [] → queue = g.queue) (h : Looked ms taken pending g queue g')

/-- **A step** of a race. -/
theorem step (h : Racing ms taken pending g) (hregular : Regular (plan ms []) none [] g)
    (hflat : ∀ m ∈ ms, m.isFlat = true) : Advanced ms taken pending g g.step := by
  unfold Gathering.step
  split
  · rename_i hround
    obtain ⟨queue, hqueue, hlooked⟩ := h.turnRound hregular
    refine .looked ?_ hqueue hlooked
    rw [Bool.and_eq_true, Bool.or_eq_true, List.isEmpty_iff, beq_iff_eq] at hround
    exact hround.1
  · rename_i hround
    split
    · rename_i id rest hqueue
      have hmem : id ∈ g.queue := by rw [hqueue]; exact List.mem_cons_self
      obtain ⟨i, m, hm, rfl⟩ := hregular.exists_at_of_mem_queue hflat hmem
      have hmflat := hflat m (List.mem_of_getElem? hm)
      have hidle : g.ran = round → pending = [] := fun heq => by
        have hidle : g.called = false ∧ g.deferred = [] := by simpa [heq] using hround
        exact h.pending_of_not_called hregular hidle.1
      -- whether it is the first of a round, which has had its tasks and found no results
      obtain ⟨ran, hran, hcount⟩ : ∃ ran, (if g.ran == round then 1 else g.ran + 1) = ran ∧
          (ran = g.ran + 1 ∧ ran ≤ round ∨ g.ran = round ∧ pending = [] ∧ ran = 1) := by
        split
        · rename_i heq
          rw [beq_iff_eq] at heq
          exact ⟨1, rfl, .inr ⟨heq, hidle heq, rfl⟩⟩
        · rename_i hne
          rw [beq_iff_eq] at hne
          exact ⟨_, rfl, .inl ⟨rfl, Nat.lt_of_le_of_ne h.ran_le hne⟩⟩
      have hless : pending.length < ran ∧ ran ≤ round := by
        rcases hcount with ⟨rfl, hle⟩ | ⟨-, rfl, rfl⟩
        · exact ⟨Nat.lt_succ_of_le h.pending_le, hle⟩
        · decide
      have hmoved := Moved.of_run hmflat (h.standing i m hm) (h.not_mem_alarms hregular hmem)
        (hregular.queued _ hmem) h.doomed h.returned rest ran
      obtain ⟨pending', hnext⟩ := h.move hregular hm hmflat hqueue hless hmoved
      rw [hran]
      exact .moved hnext hm hqueue (hcount.imp_left And.left) hmoved
    · rename_i hqueue
      have hidle : g.called = false ∧ g.deferred = [] := by simpa [hqueue] using hround
      have hrest : g.AtRest := ⟨hqueue, hidle.1, hidle.2⟩
      have hspec := earliest_spec g.alarms
      cases hnext : earliest g.alarms with
      | none =>
        unfold wait
        rw [hnext]
        exact .still rfl
      | some t =>
        rw [hnext] at hspec
        obtain ⟨⟨y, hy⟩, hleast⟩ := hspec
        have hnow := (hregular.alarm_spec hy).1
        have hpending := h.pending_of_not_called hregular hidle.1
        rw [wait_eq hnext fun a ha => (hregular.alarm_spec ha).2.2.1]
        subst hpending
        exact .waited (h.waited hregular hrest hnow hleast) hrest rfl hnow hleast rfl

end Racing

end DbLifecycle
