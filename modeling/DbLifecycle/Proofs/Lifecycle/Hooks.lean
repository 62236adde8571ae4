import Mathlib.Logic.Relation
import DbLifecycle.Proofs.Lifecycle.Turns
import DbLifecycle.Rehearsal.Stage

/-!
# Hooks beside a task

A host calls its hooks one after another while the task that starts the coordinator is still on its
way. Task and hooks share the coordinator under a lock, and the first startup waits for the task.
However they are interleaved, it comes to one order of calls.

* `Hooked`, `Hooked.Step`: a host with a task in the background, and what may happen next.
* `Hooked.Step.effort_lt`, `Hooked.exists_step`: it comes to an end, and only when all is done.
* `Told`: what calls in one order leave behind.
* `Hooked.Regular`, `Hooked.Regular.step`: the invariant, and that a step preserves it.
* **`Hooked.in_one_order`**: the calls do not overlap, and all results are those of one order.
-/

namespace DbLifecycle

open Relation

variable {σ : Type}

/-! ## A host with a task in the background -/

/-- How far the task is. -/
inductive TaskStage where
  /-- It waits for the coordinator. -/
  | asking
  | working
  | ended (result : Outcome Error Unit)

/-- How far the host is with the hook that it has called. -/
inductive HookStage where
  | idle
  /-- The hook waits for the end of the task. -/
  | joining
  /-- The hook waits for the coordinator. -/
  | asking (hook : Hook)
  | working (hook : Hook)

/-- What can be seen of a call of the coordinator. -/
inductive CallMark where
  | began (call : Call)
  | ended (call : Call)
  deriving DecidableEq, Repr

/-- A call from its beginning to its end. -/
def Call.marks (c : Call) : List CallMark := [.began c, .ended c]

/-- A host that calls hooks, and a task in the background. -/
structure Hooked (σ : Type) where
  life : Life σ
  /-- The lock of the coordinator is held. -/
  locked : Bool := false
  task : TaskStage := .asking
  hook : HookStage := .idle
  /-- Nobody has asked for the result of the task. -/
  handle : Bool := true
  todo : List Hook
  results : List (Outcome Error Unit) := []
  trace : List CallMark := []

namespace TaskStage

/-- The result of a task that has ended. -/
@[simp]
def result? : TaskStage → Option (Outcome Error Unit)
  | ended result => some result
  | _ => none

/-- The call that the task is making. -/
@[simp]
def running : TaskStage → List Call
  | working => [.init]
  | _ => []

/-- Steps that are left to the task. -/
def effort : TaskStage → Nat
  | asking => 2
  | working => 1
  | ended _ => 0

end TaskStage

namespace HookStage

/-- The hook that has been called. -/
@[simp]
def called : HookStage → List Hook
  | idle => []
  | joining => [.startup]
  | asking hook | working hook => [hook]

/-- The call that the hook is making. -/
@[simp]
def running : HookStage → List Call
  | working hook => [hook.call]
  | _ => []

/-- Steps that are left to the hook. -/
def effort : HookStage → Nat
  | idle => 0
  | joining | working _ => 1
  | asking _ => 2

end HookStage

namespace Hooked

/-- A coordinator that has just been handed to a host, which will call hooks. -/
def start (l : Life σ) (hooks : List Hook) : Hooked σ := { life := l, todo := hooks }

/-- The calls of the coordinator that are being made. -/
def running (s : Hooked σ) : List Call := s.task.running ++ s.hook.running

/-- All hooks and the task have ended. -/
def Done (s : Hooked σ) : Prop :=
  s.todo = [] ∧ s.hook.called = [] ∧ s.task.result?.isSome

/-- Steps that are left. -/
def effort (s : Hooked σ) : Nat := 3 * s.todo.length + s.hook.effort + s.task.effort

/-- What may happen next. Who gets the lock is left open. -/
inductive Step (r : Resources σ) (o : Options) : Hooked σ → Hooked σ → Prop
  | taskEnters {s} (htask : s.task = .asking) (hfree : s.locked = false) :
      Step r o s { s with
        task := .working, locked := true, trace := s.trace ++ [.began .init] }
  | taskLeaves {s} (htask : s.task = .working) :
      Step r o s { s with
        task := .ended (Life.init r o s.life).1, life := (Life.init r o s.life).2,
        locked := false, trace := s.trace ++ [.ended .init] }
  | hookJoins {s rest} (hhook : s.hook = .idle) (htodo : s.todo = .startup :: rest)
      (hhandle : s.handle = true) :
      Step r o s { s with hook := .joining, handle := false, todo := rest }
  | hookAsks {s hook rest} (hhook : s.hook = .idle) (htodo : s.todo = hook :: rest)
      (hhandle : hook = .shutdown ∨ s.handle = false) :
      Step r o s { s with hook := .asking hook, todo := rest }
  | hookJoined {s result} (hhook : s.hook = .joining) (htask : s.task = .ended result) :
      Step r o s { s with hook := .idle, results := s.results ++ [Background.joined result] }
  | hookEnters {s hook} (hhook : s.hook = .asking hook) (hfree : s.locked = false) :
      Step r o s { s with
        hook := .working hook, locked := true, trace := s.trace ++ [.began hook.call] }
  | hookLeaves {s hook} (hhook : s.hook = .working hook) :
      Step r o s { s with
        hook := .idle, life := (Life.call r o hook.call s.life).2,
        results := s.results ++ [(Life.call r o hook.call s.life).1],
        locked := false, trace := s.trace ++ [.ended hook.call] }

variable {r : Resources σ} {o : Options} {s s' : Hooked σ}

/-- Every step is one step less. -/
theorem Step.effort_lt (h : Step r o s s') : s'.effort < s.effort := by
  cases h with
  | taskEnters htask | taskLeaves htask =>
    simp only [effort, htask, TaskStage.effort]
    omega
  | hookJoins hhook htodo | hookAsks hhook htodo =>
    simp only [effort, hhook, htodo, HookStage.effort, List.length_cons]
    omega
  | hookJoined hhook | hookEnters hhook | hookLeaves hhook =>
    simp only [effort, hhook, HookStage.effort]
    omega

/-- As long as not all is done, something may happen. -/
theorem exists_step (hlock : s.running.length = if s.locked then 1 else 0) (hdone : ¬ s.Done) :
    ∃ s', Step r o s s' := by
  cases htask : s.task with
  | working => exact ⟨_, .taskLeaves htask⟩
  | asking =>
    cases hlocked : s.locked with
    | false => exact ⟨_, .taskEnters htask hlocked⟩
    | true =>
      -- the lock is held, and not by the task
      rw [hlocked, running, htask] at hlock
      cases hhook : s.hook with
      | working => exact ⟨_, .hookLeaves hhook⟩
      | _ => rw [hhook] at hlock; cases hlock
  | ended result =>
    cases hhook : s.hook with
    | working => exact ⟨_, .hookLeaves hhook⟩
    | joining => exact ⟨_, .hookJoined hhook htask⟩
    | asking =>
      refine ⟨_, .hookEnters hhook ?_⟩
      rw [running, htask, hhook] at hlock
      cases hlocked : s.locked with
      | false => rfl
      | true => rw [hlocked] at hlock; cases hlock
    | idle =>
      cases htodo : s.todo with
      | nil =>
        refine absurd ⟨htodo, ?_, ?_⟩ hdone
        · rw [hhook]; rfl
        · rw [htask]; rfl
      | cons hook rest =>
        cases hhandle : s.handle with
        | false => exact ⟨_, .hookAsks hhook htodo (.inr hhandle)⟩
        | true =>
          cases hook with
          | startup => exact ⟨_, .hookJoins hhook htodo hhandle⟩
          | shutdown => exact ⟨_, .hookAsks hhook htodo (.inl rfl)⟩

end Hooked

/-! ## One order -/

/-- What hooks that have ended leave behind, and the task if it has: the calls in one order, the
results of the hooks, and the coordinator. -/
inductive Told (r : Resources σ) (o : Options) (l₀ : Life σ) : List Hook →
    Option (Outcome Error Unit) → List Call → List (Outcome Error Unit) → Life σ → Prop
  | before {hooks os l} (hhooks : .startup ∉ hooks)
      (h : Life.drive r o (hooks.map Hook.call) l₀ = (os, l)) :
      Told r o l₀ hooks none (hooks.map Hook.call) os l
  | after {before after os₁ os₂ l₁ l₂ l result} (hbefore : .startup ∉ before)
      (h₁ : Life.drive r o (before.map Hook.call) l₀ = (os₁, l₁))
      (hinit : Life.init r o l₁ = (result, l₂))
      (h₂ : Life.drive r o ((after.erase .startup).map Hook.call) l₂ = (os₂, l)) :
      Told r o l₀ (before ++ after) (some result)
        (before.map Hook.call ++ .init :: (after.erase .startup).map Hook.call)
        (os₁ ++ answers result after os₂) l

namespace Told

variable {r : Resources σ} {o : Options} {l₀ l : Life σ} {hooks : List Hook}
  {result? : Option (Outcome Error Unit)} {calls : List Call} {os : List (Outcome Error Unit)}

/-- The task has its turn. -/
theorem run (h : Told r o l₀ hooks none calls os l) :
    Told r o l₀ hooks (some (Life.init r o l).1) (calls ++ [.init]) os (Life.init r o l).2 := by
  cases h with
  | before hhooks h =>
    have hinit : Life.init r o l = ((Life.init r o l).1, (Life.init r o l).2) := rfl
    have hrest : Life.drive r o ((([] : List Hook).erase .startup).map Hook.call)
        (Life.init r o l).2 = ([], (Life.init r o l).2) := rfl
    simpa [answers] using Told.after hhooks h hinit hrest

/-- A hook that does not wait for the task makes its call. -/
theorem call (h : Told r o l₀ hooks result? calls os l) {hook : Hook}
    (hhook : hook = .shutdown ∨ .startup ∈ hooks) :
    Told r o l₀ (hooks ++ [hook]) result? (calls ++ [hook.call])
      (os ++ [(Life.call r o hook.call l).1]) (Life.call r o hook.call l).2 := by
  cases h with
  | before hhooks h =>
    obtain rfl := hhook.resolve_right hhooks
    have hhooks' : .startup ∉ hooks ++ [.shutdown] := by
      rw [List.mem_append]
      exact fun hmem => hmem.elim hhooks (by decide)
    have hdrive := Life.drive_concat h (Hook.call .shutdown)
    rw [← List.map_singleton, ← List.map_append] at hdrive
    simpa only [List.map_append, List.map_singleton] using before hhooks' hdrive
  | @after before after os₁ os₂ _ _ _ result hbefore h₁ hinit h₂ =>
    have hhook' : hook = .shutdown ∨ .startup ∈ after :=
      hhook.imp_right fun hmem => (List.mem_append.mp hmem).resolve_left hbefore
    have hlen : os₂.length = (after.erase .startup).length := by
      rw [← List.length_map Hook.call, ← Life.length_drive (r := r) (o := o), h₂]
    have herase : (after ++ [hook]).erase .startup = after.erase .startup ++ [hook] := by
      rcases hhook' with rfl | hmem
      · by_cases hmem : .startup ∈ after
        · exact List.erase_append_left _ hmem
        · rw [List.erase_append_right _ hmem, List.erase_of_not_mem hmem]
          rfl
      · exact List.erase_append_left _ hmem
    have hdrive := Life.drive_concat h₂ hook.call
    rw [← List.map_singleton, ← List.map_append, ← herase] at hdrive
    have hlater := Told.after hbefore h₁ hinit hdrive
    rw [answers_concat hhook' hlen, herase] at hlater
    simpa using hlater

/-- The first startup takes the result of the task. -/
theorem join {result : Outcome Error Unit} (h : Told r o l₀ hooks (some result) calls os l)
    (hhooks : .startup ∉ hooks) :
    Told r o l₀ (hooks ++ [.startup]) (some result) calls (os ++ [Background.joined result]) l := by
  cases h with
  | @after before after os₁ os₂ _ _ _ _ hbefore h₁ hinit h₂ =>
    have hafter : .startup ∉ after := fun hmem => hhooks (List.mem_append_right _ hmem)
    have herase : (after ++ [Hook.startup]).erase .startup = after.erase .startup := by
      rw [List.erase_append_right _ hafter, List.erase_of_not_mem hafter]
      exact List.append_nil _
    have hlen : os₂.length = after.length := by
      rw [← List.erase_of_not_mem hafter, ← List.length_map Hook.call,
        ← Life.length_drive (r := r) (o := o), h₂]
    have hlater := Told.after hbefore h₁ hinit (herase.symm ▸ h₂)
    rw [answers_concat_startup hafter hlen, herase] at hlater
    simpa only [List.append_assoc] using hlater

end Told

/-! ## The invariant -/

namespace Hooked

/-- What holds of a host while it calls hooks, and of its coordinator. -/
structure Regular (r : Resources σ) (o : Options) (l₀ : Life σ) (hooks past : List Hook)
    (calls : List Call) (s : Hooked σ) : Prop where
  hooks : hooks = past ++ s.hook.called ++ s.todo
  told : Told r o l₀ past s.task.result? calls s.results s.life
  trace : s.trace = calls.flatMap Call.marks ++ s.running.map .began
  /-- The lock is held by who makes a call. -/
  locked : s.running.length = if s.locked then 1 else 0
  /-- The handle of the task is left to the first startup. -/
  handle : .startup ∈ past ↔ s.handle = false ∧ s.hook ≠ .joining
  joining : s.hook = .joining → s.handle = false
  asking : ∀ hook, s.hook = .asking hook ∨ s.hook = .working hook →
    hook = .shutdown ∨ .startup ∈ past

variable {r : Resources σ} {o : Options} {l₀ : Life σ} {hooks past : List Hook}
  {calls : List Call} {s s' : Hooked σ}

theorem Regular.initial (r : Resources σ) (o : Options) (l₀ : Life σ) (hooks : List Hook) :
    (start l₀ hooks).Regular r o l₀ hooks [] [] where
  hooks := rfl
  told := .before List.not_mem_nil rfl
  trace := rfl
  locked := rfl
  handle := ⟨fun h => absurd h List.not_mem_nil, fun h => by cases h.1⟩
  joining h := by cases h
  asking _ h := by rcases h with h | h <;> cases h

/-- Nobody makes a call while the lock is free. -/
theorem Regular.running_eq_nil (h : s.Regular r o l₀ hooks past calls) (hfree : s.locked = false) :
    s.running = [] := by
  have hlen := h.locked
  rw [hfree] at hlen
  exact List.length_eq_zero_iff.mp hlen

/-- Who makes a call makes it alone. -/
theorem Regular.running_eq (h : s.Regular r o l₀ hooks past calls) {c : Call}
    (hmem : c ∈ s.running) : s.running = [c] := by
  have hlen : s.running.length ≤ 1 := by
    rw [h.locked]
    split <;> omega
  cases hrun : s.running with
  | nil => rw [hrun] at hmem; cases hmem
  | cons first rest =>
    rw [hrun] at hmem hlen
    obtain rfl : rest = [] := List.length_eq_zero_iff.mp (Nat.le_zero.mp (Nat.le_of_succ_le_succ hlen))
    rw [List.mem_singleton.mp hmem]

/-- A call begins when nobody else makes one. -/
theorem Regular.trace_began (h : s.Regular r o l₀ hooks past calls) (hfree : s.locked = false)
    (c : Call) : s.trace ++ [.began c] = calls.flatMap Call.marks ++ [c].map .began := by
  rw [h.trace, h.running_eq_nil hfree]
  simp

/-- A call that ends is the next one in the order. -/
theorem Regular.trace_ended (h : s.Regular r o l₀ hooks past calls) {c : Call}
    (hmem : c ∈ s.running) :
    s.trace ++ [.ended c] = (calls ++ [c]).flatMap Call.marks ++ [].map .began := by
  rw [h.trace, h.running_eq hmem]
  simp [Call.marks]

/-! ### The steps of the task -/

/-- The task gets the lock. -/
theorem Regular.taskEnters (h : s.Regular r o l₀ hooks past calls) (htask : s.task = .asking)
    (hfree : s.locked = false) :
    Regular r o l₀ hooks past calls
      { s with task := .working, locked := true, trace := s.trace ++ [.began .init] } := by
  have hnil : s.hook.running = [] := by
    have hnil := h.running_eq_nil hfree
    rwa [running, htask] at hnil
  refine ⟨h.hooks, ?told, ?trace, ?locked, h.handle, h.joining, h.asking⟩
  case told => simpa [htask] using h.told
  case trace =>
    rw [h.trace_began hfree]
    simp only [running, TaskStage.running, hnil]
    rfl
  case locked =>
    simp only [running, TaskStage.running, hnil]
    rfl

/-- The task comes to its end: its call is the next one in the order. -/
theorem Regular.taskLeaves (h : s.Regular r o l₀ hooks past calls) (htask : s.task = .working) :
    Regular r o l₀ hooks past (calls ++ [.init])
      { s with
        task := .ended (Life.init r o s.life).1, life := (Life.init r o s.life).2,
        locked := false, trace := s.trace ++ [.ended .init] } := by
  have hmem : .init ∈ s.running := by
    rw [running, htask]
    exact List.mem_cons_self
  have hnil : s.hook.running = [] := by
    have hrun := h.running_eq hmem
    rw [running, htask] at hrun
    exact (List.cons.inj hrun).2
  refine ⟨h.hooks, ?told, ?trace, ?locked, h.handle, h.joining, h.asking⟩
  case told =>
    have htold := h.told
    rw [htask] at htold
    simpa using htold.run
  case trace =>
    rw [h.trace_ended hmem]
    simp only [running, TaskStage.running, hnil]
    rfl
  case locked =>
    simp only [running, TaskStage.running, hnil]
    rfl

/-! ### The steps of a hook -/

/-- The first startup finds the handle of the task, and waits. -/
theorem Regular.hookJoins (h : s.Regular r o l₀ hooks past calls) {rest : List Hook}
    (hhook : s.hook = .idle) (htodo : s.todo = .startup :: rest) (hhandle : s.handle = true) :
    Regular r o l₀ hooks past calls
      { s with hook := .joining, handle := false, todo := rest } := by
  have hpast : .startup ∉ past := fun hmem => by
    rw [(h.handle.mp hmem).1] at hhandle
    cases hhandle
  refine ⟨?hooks, h.told, ?trace, ?locked, ?handle, fun _ => rfl, ?asking⟩
  case hooks =>
    rw [h.hooks, hhook, htodo]
    simp [HookStage.called]
  case trace =>
    rw [h.trace, running, hhook]
    rfl
  case locked =>
    have hlocked := h.locked
    rwa [running, hhook] at hlocked
  case handle => exact ⟨fun hmem => absurd hmem hpast, fun hne => absurd rfl hne.2⟩
  case asking => rintro hook (hh | hh) <;> cases hh

/-- Any other hook asks for the lock. -/
theorem Regular.hookAsks (h : s.Regular r o l₀ hooks past calls) {hook : Hook} {rest : List Hook}
    (hhook : s.hook = .idle) (htodo : s.todo = hook :: rest)
    (hhandle : hook = .shutdown ∨ s.handle = false) :
    Regular r o l₀ hooks past calls { s with hook := .asking hook, todo := rest } := by
  refine ⟨?hooks, h.told, ?trace, ?locked, ?handle, nofun, ?asking⟩
  case hooks =>
    rw [h.hooks, hhook, htodo]
    simp [HookStage.called]
  case trace =>
    rw [h.trace, running, hhook]
    rfl
  case locked =>
    have hlocked := h.locked
    rwa [running, hhook] at hlocked
  case handle =>
    rw [h.handle, hhook]
    simp
  case asking =>
    rintro hook' (hh | hh) <;> cases hh
    exact hhandle.imp_right fun hhandle => h.handle.mpr ⟨hhandle, by simp [hhook]⟩

/-- The first startup ends with the result of the task, and makes no call. -/
theorem Regular.hookJoined (h : s.Regular r o l₀ hooks past calls) {result : Outcome Error Unit}
    (hhook : s.hook = .joining) (htask : s.task = .ended result) :
    Regular r o l₀ hooks (past ++ [.startup]) calls
      { s with hook := .idle, results := s.results ++ [Background.joined result] } := by
  have hpast : .startup ∉ past := fun hmem => (h.handle.mp hmem).2 hhook
  refine ⟨?hooks, ?told, ?trace, ?locked, ?handle, nofun, ?asking⟩
  case hooks =>
    rw [h.hooks, hhook]
    simp [HookStage.called]
  case told =>
    have htold := h.told
    rw [htask] at htold
    simpa [htask] using htold.join hpast
  case trace =>
    rw [h.trace, running, hhook]
    rfl
  case locked =>
    have hlocked := h.locked
    rwa [running, hhook] at hlocked
  case handle => simp [h.joining hhook]
  case asking => rintro hook' (hh | hh) <;> cases hh

/-- A hook gets the lock. -/
theorem Regular.hookEnters (h : s.Regular r o l₀ hooks past calls) {hook : Hook}
    (hhook : s.hook = .asking hook) (hfree : s.locked = false) :
    Regular r o l₀ hooks past calls
      { s with
        hook := .working hook, locked := true, trace := s.trace ++ [.began hook.call] } := by
  have hnil : s.task.running = [] := by
    have hnil := h.running_eq_nil hfree
    rw [running, List.append_eq_nil_iff] at hnil
    exact hnil.1
  refine ⟨?hooks, h.told, ?trace, ?locked, ?handle, nofun, ?asking⟩
  case hooks =>
    rw [h.hooks, hhook]
    rfl
  case trace =>
    rw [h.trace_began hfree]
    simp only [running, hnil, HookStage.running]
    rfl
  case locked =>
    simp only [running, hnil, HookStage.running]
    rfl
  case handle =>
    rw [h.handle, hhook]
    simp
  case asking =>
    rintro hook' (hh | hh) <;> cases hh
    exact h.asking hook (.inl hhook)

/-- A hook comes to its end: its call is the next one in the order. -/
theorem Regular.hookLeaves (h : s.Regular r o l₀ hooks past calls) {hook : Hook}
    (hhook : s.hook = .working hook) :
    Regular r o l₀ hooks (past ++ [hook]) (calls ++ [hook.call])
      { s with
        hook := .idle, life := (Life.call r o hook.call s.life).2,
        results := s.results ++ [(Life.call r o hook.call s.life).1],
        locked := false, trace := s.trace ++ [.ended hook.call] } := by
  have hmem : hook.call ∈ s.running := by
    rw [running, hhook]
    exact List.mem_append_right _ List.mem_cons_self
  have hnil : s.task.running = [] := by
    have hrun := h.running_eq hmem
    rw [running, hhook] at hrun
    exact List.append_left_eq_self.mp hrun
  have hasking := h.asking hook (.inr hhook)
  refine ⟨?hooks, h.told.call hasking, ?trace, ?locked, ?handle, nofun, ?asking⟩
  case hooks =>
    rw [h.hooks, hhook]
    simp [HookStage.called]
  case trace =>
    rw [h.trace_ended hmem]
    simp only [running, hnil, HookStage.running]
    rfl
  case locked =>
    simp only [running, hnil, HookStage.running]
    rfl
  case handle =>
    -- a startup that asks for the lock is not the first one
    have hsame : .startup ∈ past ++ [hook] ↔ .startup ∈ past := by
      rw [List.mem_append, List.mem_singleton]
      refine ⟨fun hmem => hmem.elim id fun heq => ?_, .inl⟩
      exact hasking.resolve_left (by rw [← heq]; decide)
    rw [hsame, h.handle, hhook]
    simp
  case asking => rintro hook' (hh | hh) <;> cases hh

/-- **A step preserves the invariant.** -/
theorem Regular.step (h : s.Regular r o l₀ hooks past calls) (hstep : Step r o s s') :
    ∃ past calls, s'.Regular r o l₀ hooks past calls := by
  cases hstep with
  | taskEnters htask hfree => exact ⟨_, _, h.taskEnters htask hfree⟩
  | taskLeaves htask => exact ⟨_, _, h.taskLeaves htask⟩
  | hookJoins hhook htodo hhandle => exact ⟨_, _, h.hookJoins hhook htodo hhandle⟩
  | hookAsks hhook htodo hhandle => exact ⟨_, _, h.hookAsks hhook htodo hhandle⟩
  | hookJoined hhook htask => exact ⟨_, _, h.hookJoined hhook htask⟩
  | hookEnters hhook hfree => exact ⟨_, _, h.hookEnters hhook hfree⟩
  | hookLeaves hhook => exact ⟨_, _, h.hookLeaves hhook⟩

/-! ### Runs -/

/-- The invariant holds of every run. -/
theorem Regular.run (hrun : ReflTransGen (Step r o) (start l₀ hooks) s) :
    ∃ past calls, s.Regular r o l₀ hooks past calls := by
  induction hrun with
  | refl => exact ⟨[], [], .initial r o l₀ hooks⟩
  | tail _ hstep ih =>
    obtain ⟨past, calls, h⟩ := ih
    exact h.step hstep

/-! ## Runs to their end -/

theorem wellFounded (r : Resources σ) (o : Options) :
    WellFounded fun s' s : Hooked σ => Step r o s s' :=
  Subrelation.wf Step.effort_lt (measure effort).wf

/-- Nobody makes a call when all is done. -/
theorem Done.running_eq_nil (h : s.Done) : s.running = [] := by
  obtain ⟨-, hcalled, hended⟩ := h
  rw [running, List.append_eq_nil_iff]
  constructor
  · cases htask : s.task with
    | working => rw [htask] at hended; cases hended
    | _ => rfl
  · cases hhook : s.hook with
    | working => rw [hhook] at hcalled; cases hcalled
    | _ => rfl

/-- **Hooks and the task come to one order.** Of a coordinator in any state, handed to a host that
calls any hooks, whoever gets the lock first: no two calls overlap, and every run comes to an end.
Then the coordinator has seen one call to start for the task and the first startup, and one call for
every other hook. The result of the first startup is that of the task, a panic being reported as an
error; all else is as if the calls had been made one after another. -/
theorem in_one_order (r : Resources σ) (o : Options) (l₀ : Life σ) (hooks : List Hook) :
    WellFounded (fun s' s : Hooked σ => Step r o s s') ∧
    ∀ s, ReflTransGen (Step r o) (start l₀ hooks) s →
      (∃ calls : List Call, s.trace = calls.flatMap Call.marks ++ s.running.map .began) ∧
      s.running.length ≤ 1 ∧ ((∃ s', Step r o s s') ∨ s.Done) ∧
      (s.Done → ∃ before after os₁ os₂ l₁ l₂ result,
        hooks = before ++ after ∧ .startup ∉ before ∧
        s.trace = (before.map Hook.call ++
          .init :: (after.erase .startup).map Hook.call).flatMap Call.marks ∧
        Life.drive r o (before.map Hook.call) l₀ = (os₁, l₁) ∧
        Life.init r o l₁ = (result, l₂) ∧
        Life.drive r o ((after.erase .startup).map Hook.call) l₂ = (os₂, s.life) ∧
        s.results = os₁ ++ answers result after os₂ ∧
        Background.course r o (before.map .hook ++ .task :: after.map .hook)
            ({ state := l₀.state }, l₀.world) =
          (s.results, ⟨s.life.state, if .startup ∈ after then .taken else .finished result⟩,
            s.life.world)) := by
  refine ⟨wellFounded r o, fun s hrun => ?_⟩
  obtain ⟨past, calls, h⟩ := Regular.run hrun
  refine ⟨⟨calls, h.trace⟩, ?_, ?_, fun hdone => ?_⟩
  · rw [h.locked]
    split <;> omega
  · by_cases hdone : s.Done
    · exact .inr hdone
    · exact .inl (exists_step h.locked hdone)
  · have htrace := h.trace
    rw [hdone.running_eq_nil, List.map_nil, List.append_nil] at htrace
    have htold := h.told
    obtain ⟨htodo, hcalled, hended⟩ := hdone
    obtain ⟨result, htask⟩ := Option.isSome_iff_exists.mp hended
    obtain rfl : hooks = past := by
      rw [h.hooks, hcalled, htodo, List.append_nil, List.append_nil]
    rw [htask] at htold
    generalize s.results = os at htold ⊢
    cases htold with
    | after hbefore h₁ hinit h₂ =>
      exact ⟨_, _, _, _, _, _, _, rfl, hbefore, htrace, h₁, hinit, h₂, rfl,
        Background.course_eq hbefore h₁ hinit h₂⟩

/-- A run to the end of the first startup: it waits for the task, which has the coordinator to
itself. -/
theorem run_startup (r : Resources σ) (o : Options) {s : Hooked σ} {rest : List Hook}
    (hfree : s.locked = false) (htask : s.task = .asking) (hhook : s.hook = .idle)
    (hhandle : s.handle = true) (htodo : s.todo = .startup :: rest) :
    ReflTransGen (Step r o) s
      { s with
        life := (Life.init r o s.life).2, task := .ended (Life.init r o s.life).1,
        handle := false, todo := rest,
        results := s.results ++ [Background.joined (Life.init r o s.life).1],
        trace := s.trace ++ [.began .init] ++ [.ended .init] } := by
  obtain ⟨life, locked, task, hook, handle, todo, results, trace⟩ := s
  cases hfree
  cases htask
  cases hhook
  cases hhandle
  cases htodo
  have hjoins := ReflTransGen.single (Step.hookJoins (r := r) (o := o)
    (s := ⟨life, false, .asking, .idle, true, .startup :: rest, results, trace⟩) rfl rfl rfl)
  have henters := hjoins.tail (.taskEnters rfl rfl)
  have hleaves := henters.tail (.taskLeaves rfl)
  exact hleaves.tail (.hookJoined rfl rfl)

/-- A run to the end of a shutdown that has the coordinator to itself. -/
theorem run_shutdown (r : Resources σ) (o : Options) {s : Hooked σ} {rest : List Hook}
    (hfree : s.locked = false) (hhook : s.hook = .idle) (htodo : s.todo = .shutdown :: rest) :
    ReflTransGen (Step r o) s
      { s with
        life := (Life.close r s.life).2, todo := rest,
        results := s.results ++ [(Life.close r s.life).1],
        trace := s.trace ++ [.began .close] ++ [.ended .close] } := by
  obtain ⟨life, locked, task, hook, handle, todo, results, trace⟩ := s
  cases hfree
  cases hhook
  cases htodo
  have hasks := ReflTransGen.single (Step.hookAsks (r := r) (o := o)
    (s := ⟨life, false, task, .idle, handle, .shutdown :: rest, results, trace⟩) rfl rfl (.inl rfl))
  have henters := hasks.tail (.hookEnters rfl rfl)
  have hleaves := henters.tail (.hookLeaves rfl)
  exact hleaves

/-- A shutdown overtakes the task, and another one comes after the first startup. -/
theorem in_one_order_overtaken : ∃ s : Hooked Stage,
    ReflTransGen (Step (Stage.scripted .standard) .oneFile)
      (start ⟨.unstarted, {}⟩ [.shutdown, .startup, .shutdown]) s ∧ s.Done ∧
    s.results = [.error (.lifecycle .close .unstarted), .ok (), .ok ()] ∧ s.life.state = .closed ∧
    ∃ before after, [.shutdown, .startup, .shutdown] = before ++ after ∧ .startup ∉ before ∧
      s.trace = (before.map Hook.call ++
        .init :: (after.erase .startup).map Hook.call).flatMap Call.marks := by
  have hfirst := run_shutdown (Stage.scripted .standard) .oneFile
    (s := start ⟨.unstarted, {}⟩ [.shutdown, .startup, .shutdown]) rfl rfl rfl
  have hsecond := hfirst.trans (run_startup _ _ rfl rfl rfl rfl rfl)
  have hrun := hsecond.trans (run_shutdown _ _ rfl rfl rfl)
  have hend := (in_one_order (Stage.scripted .standard) .oneFile ⟨.unstarted, {}⟩
    [.shutdown, .startup, .shutdown]).2 _ hrun
  obtain ⟨before, after, -, -, -, -, -, hhooks, hbefore, htrace, -⟩ := hend.2.2.2 ⟨rfl, rfl, rfl⟩
  exact ⟨_, hrun, ⟨rfl, rfl, rfl⟩, by decide, by decide, before, after, hhooks, hbefore, htrace⟩

/-- A host whose coordinator panics as its connections are opened. -/
def panicking : Life Stage := ⟨.unstarted, { script := { opening := [.panic] } }⟩

/-- The first startup does not panic as the call does that it stands for. -/
theorem in_one_order_not_bare : ∃ s : Hooked Stage,
    ReflTransGen (Step (Stage.scripted .standard) .oneFile) (start panicking [.startup]) s ∧
    s.Done ∧ s.trace = Call.marks .init ∧
    s.results = [.error (.runtime "task # panicked with message \"open panicked\"")] ∧
    (Life.drive (Stage.scripted .standard) .oneFile [.init] panicking).1 =
      [.panic "open panicked"] := by
  refine ⟨_, run_startup _ _ rfl rfl rfl rfl rfl, ⟨rfl, rfl, rfl⟩, rfl, ?_, ?_⟩
  all_goals decide

end Hooked

end DbLifecycle
