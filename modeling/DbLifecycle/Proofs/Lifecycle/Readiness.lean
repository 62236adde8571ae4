import DbLifecycle.Proofs.Lifecycle.Hooks
import DbLifecycle.Proofs.Lifecycle.Provision

/-!
# What a startup tells

A startup that ends without an error tells its host that requests may be served. The first one tells
what became of the task, which may have ended long before: requests were answered since, and the
host may have called other hooks.

* `Life.Serves`, `Life.Shut`: a coordinator with its connections, and one that is done.
* `Hooked.Moves`: a host in a world where other things happen, too.
* `Hooked.Overtaken`: the first startup waits, and a shutdown has come between.
* `Hooked.Informed`, `Hooked.Informed.step`: the invariant, and that a step preserves it.
* **`Hooked.startup_ok`**: what holds when a startup ends without an error.
-/

namespace DbLifecycle

open Relation World

/-! ## Coordinators -/

namespace Life

/-- A coordinator is ready, and all connections of a configuration are open. -/
structure Serves (c : Config) (l : Life World) : Prop where
  ready : l.state = .ready
  opened : ∀ a ∈ c.connections.keys, a ∈ l.world.aliases

/-- A coordinator is closed, and no connection is open. -/
structure Shut (l : Life World) : Prop where
  closed : l.state = .closed
  aliases : l.world.aliases = []

variable {driver : Driver} {catalog : Catalog} {o : Options} {c : Config} {l l' : Life World}

/-- A start that ends without an error has opened all connections of what it has loaded. -/
theorem serves_of_init (h : init (resources driver catalog) o l = (.ok (), l')) :
    ∃ c, o.load l.world.disk.text? = .ok c ∧ Serves c l' := by
  obtain ⟨state, w⟩ := l
  by_cases hstate : state = .unstarted
  · subst hstate
    obtain ⟨c, qs, v, ha, hv, hkeeps, -⟩ := init_ready h
    refine ⟨c, ha.loaded, init_state_of_ok h, fun a hmem => ?_⟩
    rw [hkeeps.aliases, hv.opened.mem_aliases, ha.aliases]
    exact .inl hmem
  · rw [init_of_not_unstarted (l := ⟨state, w⟩) hstate] at h
    cases h

theorem Serves.close (h : Serves c l) : Shut (close (resources driver catalog) l).2 := by
  obtain ⟨state, w⟩ := l
  obtain rfl : state = .ready := h.ready
  have hcloses := close_closes driver catalog w
  exact ⟨close_state_of_ready rfl, aliases_eq_nil_iff.mpr (hcloses.pools_eq_empty fun _ ha => ha)⟩

/-- There is nothing to close any more. -/
theorem Shut.close (h : Shut l) : Shut (close (resources driver catalog) l).2 := by
  have hnot : l.state ≠ .ready := by
    rw [h.closed]
    decide
  rw [close_of_not_ready hnot]
  exact h

end Life

namespace Hooked

/-! ## Runs in a changing world -/

/-- What may happen. The task or the host goes on, and databases answer as they like; or something
else happens in the world, but no connection is opened or closed. -/
inductive Moves (catalog : Catalog) (o : Options) : Hooked World → Hooked World → Prop
  | step {s s' : Hooked World} (driver : Driver) (h : Step (resources driver catalog) o s s') :
      Moves catalog o s s'
  | elsewhere {s : Hooked World} {w : World} (h : w.aliases = s.life.world.aliases) :
      Moves catalog o s { s with life := { s.life with world := w } }

/-- At some time of a run a start has ended without an error, and this is what it had loaded. -/
def Started (catalog : Catalog) (o : Options) (s₀ : Hooked World) (c : Config) (s : Hooked World) :
    Prop :=
  ∃ driver u v, ReflTransGen (Moves catalog o) s₀ u ∧ Step (resources driver catalog) o u v ∧
    Life.init (resources driver catalog) o u.life = (.ok (), v.life) ∧
    o.load u.life.world.disk.text? = .ok c ∧ ReflTransGen (Moves catalog o) v s

/-- A call to start has ended, and a call to close after it. -/
def ClosedAfter (trace : List CallMark) : Prop :=
  List.Sublist [.ended .init, .ended .close] trace

instance (trace : List CallMark) : Decidable (ClosedAfter trace) :=
  inferInstanceAs (Decidable (List.Sublist [.ended .init, .ended .close] trace))

theorem closedAfter_concat {trace : List CallMark} {m : CallMark} :
    ClosedAfter (trace ++ [m]) ↔
      ClosedAfter trace ∨ m = .ended .close ∧ .ended .init ∈ trace := by
  constructor
  · intro h
    obtain ⟨early, late, heq, hearly, hlate⟩ := List.sublist_append_iff.mp h
    rcases List.sublist_singleton.mp hlate with rfl | rfl
    · left
      rw [List.append_nil] at heq
      rwa [← heq] at hearly
    · right
      obtain ⟨rfl, hm⟩ : [.ended .init] = early ∧ [.ended .close] = [m] := List.append_inj' heq rfl
      exact ⟨(List.singleton_inj.mp hm).symm, List.singleton_sublist.mp hearly⟩
  · rintro (h | ⟨rfl, hmem⟩)
    · exact h.trans (List.sublist_append_left _ _)
    · exact (List.singleton_sublist.mpr hmem).append (List.Sublist.refl [CallMark.ended .close])

/-- The beginning of a call ends nothing. -/
theorem closedAfter_began {trace : List CallMark} {c : Call} :
    ClosedAfter (trace ++ [.began c]) ↔ ClosedAfter trace := by
  simp [closedAfter_concat]

/-- The first startup waits for the task, and the coordinator was closed since the task ended. -/
def Overtaken (s : Hooked World) : Prop := s.hook = .joining ∧ ClosedAfter s.trace

section Runs

variable {catalog : Catalog} {o : Options} {driver : Driver} {c : Config} {s₀ s s' : Hooked World}

theorem Started.tail (h : Started catalog o s₀ c s) (hmove : Moves catalog o s s') :
    Started catalog o s₀ c s' := by
  obtain ⟨driver, u, v, hu, hstep, hinit, hload, hv⟩ := h
  exact ⟨driver, u, v, hu, hstep, hinit, hload, hv.tail hmove⟩

/-- A run in a world where nothing else happens. -/
theorem moves_of_steps (h : ReflTransGen (Step (resources driver catalog) o) s s') :
    ReflTransGen (Moves catalog o) s s' :=
  h.lift id fun _ _ => .step driver

/-- A start of this very moment. -/
theorem started_of_step (hrun : ReflTransGen (Moves catalog o) s₀ s)
    (hstep : Step (resources driver catalog) o s s')
    (hinit : Life.init (resources driver catalog) o s.life = (.ok (), s'.life)) :
    ∃ c, Started catalog o s₀ c s' ∧ s'.life.Serves c := by
  obtain ⟨c, hload, hserves⟩ := Life.serves_of_init hinit
  exact ⟨c, ⟨driver, s, s', hrun, hstep, hinit, hload, .refl⟩, hserves⟩

end Runs

/-! ## The invariant -/

/-- Nobody has been told the result of the task. -/
def Awaited (s : Hooked World) : Prop := s.handle = true ∨ s.hook = .joining

/-- What is known of the coordinator while the result of the task is awaited. -/
structure Informed (catalog : Catalog) (o : Options) (s₀ s : Hooked World) : Prop where
  run : ReflTransGen (Moves catalog o) s₀ s
  /-- Only shutdowns do not wait for the task. -/
  asking : s.Awaited → ∀ hook, s.hook = .asking hook ∨ s.hook = .working hook → hook = .shutdown
  /-- No start but that of the task has ended. -/
  marked : s.Awaited → (.ended .init ∈ s.trace ↔ s.task.result?.isSome)
  serves : s.Awaited → s.task = .ended (.ok ()) → ¬ ClosedAfter s.trace →
    ∃ c, Started catalog o s₀ c s ∧ s.life.Serves c
  shut : s.Awaited → s.task = .ended (.ok ()) → ClosedAfter s.trace → s.life.Shut

namespace Informed

variable {catalog : Catalog} {o : Options} {driver : Driver} {s₀ s s' : Hooked World}

theorem initial (catalog : Catalog) (o : Options) (l : Life World) (hooks : List Hook) :
    Informed catalog o (start l hooks) (start l hooks) where
  run := .refl
  asking _ _ h := by rcases h with h | h <;> cases h
  marked _ := by simp [start]
  serves _ h := by cases h
  shut _ h := by cases h

/-- Whatever ends no call and changes neither the task nor the connections preserves the
invariant. -/
theorem of_same (h : Informed catalog o s₀ s) (hmove : Moves catalog o s s')
    (htask : s'.task = s.task) (hstate : s'.life.state = s.life.state)
    (haliases : s'.life.world.aliases = s.life.world.aliases)
    (hmarked : .ended .init ∈ s'.trace ↔ .ended .init ∈ s.trace)
    (hclosed : ClosedAfter s'.trace ↔ ClosedAfter s.trace) (hwait : s'.Awaited → s.Awaited)
    (hasking : s'.Awaited → ∀ hook, s'.hook = .asking hook ∨ s'.hook = .working hook →
      hook = .shutdown) : Informed catalog o s₀ s' where
  run := h.run.tail hmove
  asking := hasking
  marked hw := by rw [hmarked, htask, h.marked (hwait hw)]
  serves hw hended hnot := by
    rw [htask] at hended
    rw [hclosed] at hnot
    obtain ⟨c, hstarted, hready, hopened⟩ := h.serves (hwait hw) hended hnot
    exact ⟨c, hstarted.tail hmove, hstate.trans hready, fun a ha => haliases ▸ hopened a ha⟩
  shut hw hended hafter := by
    rw [htask] at hended
    rw [hclosed] at hafter
    obtain ⟨hshut, hnil⟩ := h.shut (hwait hw) hended hafter
    exact ⟨hstate.trans hshut, haliases.trans hnil⟩

/-- The task ends. If all went well, its start is that of the coordinator. -/
theorem taskLeaves (h : Informed catalog o s₀ s) (htask : s.task = .working) :
    Informed catalog o s₀ { s with
      task := .ended (Life.init (resources driver catalog) o s.life).1
      life := (Life.init (resources driver catalog) o s.life).2
      locked := false, trace := s.trace ++ [.ended .init] } := by
  have hstep := Step.taskLeaves (r := resources driver catalog) (o := o) htask
  have hfirst : s.Awaited → .ended .init ∉ s.trace := fun hw hmem => by
    have hended := (h.marked hw).mp hmem
    rw [htask] at hended
    cases hended
  have hnot : s.Awaited → ¬ ClosedAfter (s.trace ++ [.ended .init]) := fun hw hafter => by
    rcases closedAfter_concat.mp hafter with hafter | ⟨heq, -⟩
    · exact hfirst hw (hafter.subset List.mem_cons_self)
    · cases heq
  refine ⟨h.run.tail (.step driver hstep), h.asking, fun _ => ?_, fun _ hended _ => ?_,
    fun hw _ hafter => absurd hafter (hnot hw)⟩
  · exact iff_of_true (List.mem_append_right _ List.mem_cons_self) rfl
  · exact started_of_step h.run hstep (Prod.ext (TaskStage.ended.inj hended) rfl)

/-- A hook ends that does not wait for the task. While the result of the task is awaited, it is a
shutdown. -/
theorem hookLeaves (h : Informed catalog o s₀ s) {hook : Hook} (hhook : s.hook = .working hook) :
    Informed catalog o s₀ { s with
      hook := .idle
      life := (Life.call (resources driver catalog) o hook.call s.life).2
      results := s.results ++ [(Life.call (resources driver catalog) o hook.call s.life).1]
      locked := false, trace := s.trace ++ [.ended hook.call] } := by
  have hstep := Step.hookLeaves (r := resources driver catalog) (o := o) hhook
  have hbefore (hw : s.handle = true ∨ HookStage.idle = .joining) :
      s.Awaited ∧ hook = .shutdown := by
    have hwait : s.Awaited := .inl (hw.resolve_right nofun)
    exact ⟨hwait, h.asking hwait hook (.inr hhook)⟩
  refine ⟨h.run.tail (.step driver hstep), fun _ _ hh => ?_, fun hw => ?_, fun hw hended hnot => ?_,
    fun hw hended _ => ?_⟩
  · rcases hh with hh | hh <;> cases hh
  · obtain ⟨hwait, rfl⟩ := hbefore hw
    rw [← h.marked hwait]
    simp [Hook.call]
  · obtain ⟨hwait, rfl⟩ := hbefore hw
    have hmem := (h.marked hwait).mpr (by rw [hended]; rfl)
    exact absurd (closedAfter_concat.mpr (.inr ⟨rfl, hmem⟩)) hnot
  · obtain ⟨hwait, rfl⟩ := hbefore hw
    by_cases hclosed : ClosedAfter s.trace
    · exact (h.shut hwait hended hclosed).close
    · obtain ⟨c, -, hserves⟩ := h.serves hwait hended hclosed
      exact hserves.close

/-- **A step preserves the invariant.** -/
theorem step (h : Informed catalog o s₀ s) (hstep : Step (resources driver catalog) o s s') :
    Informed catalog o s₀ s' := by
  have hmove : Moves catalog o s s' := .step driver hstep
  have hrun := h.run.tail hmove
  cases hstep with
  | taskEnters htask hfree =>
    refine ⟨hrun, h.asking, fun hw => ?_, fun _ hended => ?_, fun _ hended => ?_⟩
    · have hmarked := h.marked hw
      rw [htask] at hmarked
      simpa using hmarked
    · cases hended
    · cases hended
  | taskLeaves htask => exact h.taskLeaves htask
  | hookJoins hhook htodo hhandle =>
    refine h.of_same hmove rfl rfl rfl Iff.rfl Iff.rfl (fun _ => .inl hhandle) fun _ _ hh => ?_
    rcases hh with hh | hh <;> cases hh
  | @hookAsks hook rest hhook htodo hhandle =>
    have hbefore (hw : s.handle = true ∨ HookStage.asking hook = .joining) : s.handle = true :=
      hw.resolve_right nofun
    refine h.of_same hmove rfl rfl rfl Iff.rfl Iff.rfl (fun hw => .inl (hbefore hw)) ?_
    rintro hw hook' (hh | hh) <;> cases hh
    exact hhandle.resolve_right (by rw [hbefore hw]; decide)
  | hookJoined hhook htask =>
    refine h.of_same hmove rfl rfl rfl Iff.rfl Iff.rfl (fun _ => .inr hhook) fun _ _ hh => ?_
    rcases hh with hh | hh <;> cases hh
  | @hookEnters hook hhook hfree =>
    have hbefore (hw : s.handle = true ∨ HookStage.working hook = .joining) : s.Awaited :=
      .inl (hw.resolve_right nofun)
    refine h.of_same hmove rfl rfl rfl (by simp) closedAfter_began hbefore ?_
    rintro hw hook' (hh | hh) <;> cases hh
    exact h.asking (hbefore hw) hook (.inl hhook)
  | hookLeaves hhook => exact h.hookLeaves hhook

/-- The invariant holds of every run. -/
theorem run_of {l : Life World} {hooks : List Hook}
    (hrun : ReflTransGen (Moves catalog o) (start l hooks) s) :
    Informed catalog o (start l hooks) s := by
  induction hrun with
  | refl => exact initial catalog o l hooks
  | tail _ hmove ih =>
    cases hmove with
    | step driver h => exact ih.step h
    | elsewhere hw =>
      exact ih.of_same (.elsewhere hw) rfl rfl hw Iff.rfl Iff.rfl id ih.asking

end Informed

/-! ## What a startup tells -/

/-- **A startup that ends without an error** finds the coordinator ready, with all connections open
of the configuration that it has started with. This is so for any hooks one after another, wherever
the task has its turn, and whatever else happens meanwhile. Only if the host has closed the
coordinator after the task and before its first startup, that startup still tells how the task ended,
while the coordinator is closed and nothing is open. -/
theorem startup_ok {catalog : Catalog} {o : Options} {l : Life World} {hooks : List Hook}
    {s s' : Hooked World} (hrun : ReflTransGen (Moves catalog o) (start l hooks) s)
    (hmove : Moves catalog o s s') (hcalled : s.hook.called = [.startup])
    (hok : s'.results = s.results ++ [.ok ()]) :
    (¬ s.Overtaken → ∃ c, Started catalog o (start l hooks) c s' ∧ s'.life.Serves c) ∧
      (s.Overtaken → s'.life.Shut) := by
  have h := Informed.run_of hrun
  have hnot {os : List (Outcome Error Unit)} : os ≠ os ++ [.ok ()] := by simp
  cases hmove with
  | elsewhere hw => exact absurd hok hnot
  | step driver hstep =>
    cases hstep with
    | @hookJoined result hhook htask =>
      have hjoined : Background.joined result = .ok () :=
        List.singleton_inj.mp (List.append_cancel_left hok)
      obtain rfl : result = .ok () := by
        cases result with
        | ok => rfl
        | _ => cases hjoined
      refine ⟨fun hin => ?_, fun hover => h.shut (.inr hhook) htask hover.2⟩
      obtain ⟨c, hstarted, hserves⟩ :=
        h.serves (.inr hhook) htask fun hafter => hin ⟨hhook, hafter⟩
      exact ⟨c, hstarted.tail (.step driver (.hookJoined hhook htask)), hserves⟩
    | @hookLeaves hook hhook =>
      rw [hhook] at hcalled
      obtain rfl : hook = .startup := List.singleton_inj.mp hcalled
      have hinit : (Life.init (resources driver catalog) o s.life).1 = .ok () :=
        List.singleton_inj.mp (List.append_cancel_left hok)
      refine ⟨fun _ => ?_, fun hover => ?_⟩
      · exact started_of_step h.run (.hookLeaves hhook) (Prod.ext hinit rfl)
      · cases hhook.symm.trans hover.1
    | _ => exact absurd hok hnot

/-! ## Early shutdowns -/

section Runs

variable {σ : Type} (r : Resources σ) (o : Options) (l : Life σ)

/-- The first startup waits for a task that has ended. -/
def waiting : Hooked σ where
  life := (Life.init r o l).2
  task := .ended (Life.init r o l).1
  hook := .joining
  handle := false
  todo := []
  trace := [.began .init, .ended .init]

/-- The first startup waits for a task that has ended, and a shutdown came before it. -/
def waitingClosed : Hooked σ where
  life := (Life.close r (Life.init r o l).2).2
  task := .ended (Life.init r o l).1
  hook := .joining
  handle := false
  todo := []
  results := [(Life.close r (Life.init r o l).2).1]
  trace := [.began .init, .ended .init, .began .close, .ended .close]

/-- The task may have its turn before any hook. -/
theorem run_task (hooks : List Hook) : ReflTransGen (Step r o) (start l hooks)
    { start (Life.init r o l).2 hooks with
      task := .ended (Life.init r o l).1, trace := [.began .init, .ended .init] } :=
  (ReflTransGen.single (.taskEnters rfl rfl)).tail (.taskLeaves rfl)

theorem run_waiting : ReflTransGen (Step r o) (start l [.startup]) (waiting r o l) :=
  (run_task r o l [.startup]).tail (.hookJoins rfl rfl rfl)

theorem run_waitingClosed :
    ReflTransGen (Step r o) (start l [.shutdown, .startup]) (waitingClosed r o l) := by
  have htask := run_task r o l [.shutdown, .startup]
  have hclosed := htask.trans (run_shutdown r o rfl rfl rfl)
  exact hclosed.tail (.hookJoins rfl rfl rfl)

end Runs

/-- A coordinator of a small service starts. -/
theorem init_oneFile :
    (Life.init (resources .standard .standard) .oneFile ⟨.unstarted, {}⟩).1 = .ok () := by
  decide +kernel

/-- The first startup of a small service ends without an error, with an early shutdown before it or
not. -/
theorem startup_ok_oneFile :
    (∃ s s' : Hooked World,
      ReflTransGen (Moves .standard .oneFile) (start ⟨.unstarted, {}⟩ [.startup]) s ∧
      Moves .standard .oneFile s s' ∧ s.hook.called = [.startup] ∧
      s'.results = s.results ++ [.ok ()] ∧ ¬ s.Overtaken ∧
      ∃ c, Started .standard .oneFile (start ⟨.unstarted, {}⟩ [.startup]) c s' ∧
        s'.life.Serves c) ∧
    ∃ s s' : Hooked World,
      ReflTransGen (Moves .standard .oneFile) (start ⟨.unstarted, {}⟩ [.shutdown, .startup]) s ∧
      Moves .standard .oneFile s s' ∧ s.hook.called = [.startup] ∧
      s'.results = s.results ++ [.ok ()] ∧ s.Overtaken ∧ s'.life.Shut := by
  have hok := congrArg (fun result => [Background.joined result]) init_oneFile
  constructor
  · let s := waiting (resources .standard .standard) .oneFile ⟨.unstarted, {}⟩
    have hrun : ReflTransGen (Moves .standard .oneFile) _ s := moves_of_steps (run_waiting _ _ _)
    have hmove : Moves .standard .oneFile s _ := .step .standard (.hookJoined rfl rfl)
    have hin : ¬ s.Overtaken := by
      rintro ⟨-, hafter⟩
      exact absurd hafter (by decide)
    exact ⟨s, _, hrun, hmove, rfl, hok, hin, (startup_ok hrun hmove rfl hok).1 hin⟩
  · let s := waitingClosed (resources .standard .standard) .oneFile ⟨.unstarted, {}⟩
    have hrun : ReflTransGen (Moves .standard .oneFile) _ s :=
      moves_of_steps (run_waitingClosed _ _ _)
    have hmove : Moves .standard .oneFile s _ := .step .standard (.hookJoined rfl rfl)
    have hover : s.Overtaken := ⟨rfl, by decide⟩
    have hok := congrArg (s.results ++ ·) hok
    exact ⟨s, _, hrun, hmove, rfl, hok, hover, (startup_ok hrun hmove rfl hok).2 hover⟩

/-- The first startup after an early shutdown ends without an error, though nothing is open. -/
theorem startup_ok_closed : ∃ s s' : Hooked World,
    ReflTransGen (Moves .standard .oneFile) (start ⟨.unstarted, {}⟩ [.shutdown, .startup]) s ∧
    Moves .standard .oneFile s s' ∧ s.hook.called = [.startup] ∧
    s'.results = s.results ++ [.ok ()] ∧ s'.life.state = .closed ∧ s'.life.world.aliases = [] ∧
    ¬ ∃ c, s'.life.Serves c := by
  let s := waitingClosed (resources .standard .standard) .oneFile ⟨.unstarted, {}⟩
  have hrun : ReflTransGen (Moves .standard .oneFile) _ s := moves_of_steps (run_waitingClosed _ _ _)
  have hmove : Moves .standard .oneFile s _ := .step .standard (.hookJoined rfl rfl)
  have hok := congrArg (fun result => s.results ++ [Background.joined result]) init_oneFile
  have hclosed : s.life.state = .closed := by decide +kernel
  have hnil : s.life.world.aliases = [] := by decide +kernel
  refine ⟨s, _, hrun, hmove, rfl, hok, hclosed, hnil, ?_⟩
  rintro ⟨c, hready, -⟩
  cases hclosed.symm.trans hready

end Hooked

end DbLifecycle
