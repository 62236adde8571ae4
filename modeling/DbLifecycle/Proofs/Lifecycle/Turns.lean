import DbLifecycle.Lifecycle.Background
import DbLifecycle.Proofs.Lifecycle.History

/-!
# Hooks in turn

The hooks of a host are called one after another, and the task that starts the coordinator in the
background has its turn somewhere between them. What comes of it is what comes of the coordinator
alone, called in that order.

* `Life.drive`: calls of a coordinator, one after another.
* `Hook`, `Turn`, `Background.course`: hooks and the task, one after another.
* `answers`: the results of hooks, given those of the calls they make.
* **`Background.course_eq`**: a course is a drive.
-/

namespace DbLifecycle

variable {σ : Type}

/-! ## Calls of a coordinator -/

namespace Life

/-- A call that is not about a host, `init` or `close`. -/
def call (r : Resources σ) (o : Options) (c : Call) (l : Life σ) : Outcome Error Unit × Life σ :=
  let (outcome, _, l) := perform r o c {} l
  (outcome, l)

/-- Calls one after another. -/
def drive (r : Resources σ) (o : Options) : List Call → Life σ → List (Outcome Error Unit) × Life σ
  | [], l => ([], l)
  | c :: rest, l =>
    let (outcome, l) := call r o c l
    let (outcomes, l) := drive r o rest l
    (outcome :: outcomes, l)

variable {r : Resources σ} {o : Options}

theorem drive_cons (c : Call) (rest : List Call) (l : Life σ) : drive r o (c :: rest) l =
    ((call r o c l).1 :: (drive r o rest (call r o c l).2).1,
      (drive r o rest (call r o c l).2).2) := rfl

theorem drive_append (cs ds : List Call) (l : Life σ) : drive r o (cs ++ ds) l =
    ((drive r o cs l).1 ++ (drive r o ds (drive r o cs l).2).1,
      (drive r o ds (drive r o cs l).2).2) := by
  induction cs generalizing l with
  | nil => rfl
  | cons c rest ih => rw [List.cons_append, drive_cons, ih, drive_cons, List.cons_append]

theorem drive_concat {cs : List Call} {l l' : Life σ} {os : List (Outcome Error Unit)}
    (h : drive r o cs l = (os, l')) (c : Call) :
    drive r o (cs ++ [c]) l = (os ++ [(call r o c l').1], (call r o c l').2) := by
  rw [drive_append, h]
  rfl

theorem length_drive (cs : List Call) (l : Life σ) : (drive r o cs l).1.length = cs.length := by
  induction cs generalizing l with
  | nil => rfl
  | cons c rest ih => exact congrArg (· + 1) (ih _)

end Life

/-! ## Hooks -/

/-- The hooks of a host. -/
inductive Hook where
  | startup
  | shutdown
  deriving DecidableEq, Repr

/-- The call of the coordinator that a hook makes, unless it waits for the task. -/
def Hook.call : Hook → Call
  | startup => .init
  | shutdown => .close

/-- The results of hooks that are called after the task has had its turn, given those of the calls
they make: the first startup makes none, and has the result of the task. -/
def answers (result : Outcome Error Unit) :
    List Hook → List (Outcome Error Unit) → List (Outcome Error Unit)
  | .shutdown :: hooks, outcome :: outcomes => outcome :: answers result hooks outcomes
  | .startup :: _, outcomes => Background.joined result :: outcomes
  | _, outcomes => outcomes

section Answers

variable {result outcome : Outcome Error Unit} {hooks : List Hook}
  {outcomes : List (Outcome Error Unit)}

/-- A further hook that makes a call has the result of that. -/
theorem answers_concat {hook : Hook} (hhook : hook = .shutdown ∨ .startup ∈ hooks)
    (hlen : outcomes.length = (hooks.erase .startup).length) :
    answers result (hooks ++ [hook]) (outcomes ++ [outcome]) =
      answers result hooks outcomes ++ [outcome] := by
  induction hooks generalizing outcomes with
  | nil =>
    obtain rfl := hhook.resolve_right List.not_mem_nil
    obtain rfl := List.length_eq_zero_iff.mp hlen
    rfl
  | cons first rest ih =>
    cases first with
    | startup => rfl
    | shutdown =>
      cases outcomes with
      | nil => cases hlen
      | cons outcome' outcomes =>
        have hrest : hook = .shutdown ∨ .startup ∈ rest :=
          hhook.imp_right fun hmem => List.mem_of_ne_of_mem (by decide) hmem
        exact congrArg (outcome' :: ·) (ih hrest (Nat.succ.inj hlen))

/-- The first startup has the result of the task. -/
theorem answers_concat_startup (hhooks : .startup ∉ hooks)
    (hlen : outcomes.length = hooks.length) :
    answers result (hooks ++ [.startup]) outcomes =
      answers result hooks outcomes ++ [Background.joined result] := by
  induction hooks generalizing outcomes with
  | nil =>
    obtain rfl := List.length_eq_zero_iff.mp hlen
    rfl
  | cons first rest ih =>
    cases first with
    | startup => exact absurd List.mem_cons_self hhooks
    | shutdown =>
      cases outcomes with
      | nil => cases hlen
      | cons outcome' outcomes =>
        exact congrArg (outcome' :: ·)
          (ih (fun hmem => hhooks (List.mem_cons_of_mem _ hmem)) (Nat.succ.inj hlen))

end Answers

/-! ## Turns -/

/-- Who has a turn: the task in the background, or a hook that is called. -/
inductive Turn where
  | task
  | hook (hook : Hook)
  deriving DecidableEq, Repr

namespace Background

/-- A turn, and the result of the hook if one was called. -/
def turn (r : Resources σ) (o : Options) :
    Turn → Background × σ → List (Outcome Error Unit) × Background × σ
  | .task, (b, w) => ([], run r o b w)
  | .hook .startup, (b, w) => let (outcome, b, w) := startup r o b w; ([outcome], b, w)
  | .hook .shutdown, (b, w) => let (outcome, b, w) := shutdown r b w; ([outcome], b, w)

/-- Turns one after another, and the results of the hooks. -/
def course (r : Resources σ) (o : Options) :
    List Turn → Background × σ → List (Outcome Error Unit) × Background × σ
  | [], p => ([], p)
  | t :: rest, p =>
    let (outcomes, p) := turn r o t p
    let (later, p) := course r o rest p
    (outcomes ++ later, p)

variable {r : Resources σ} {o : Options}

theorem course_cons (t : Turn) (rest : List Turn) (p : Background × σ) : course r o (t :: rest) p =
    ((turn r o t p).1 ++ (course r o rest (turn r o t p).2).1,
      (course r o rest (turn r o t p).2).2) := rfl

theorem course_append (ts us : List Turn) (p : Background × σ) : course r o (ts ++ us) p =
    ((course r o ts p).1 ++ (course r o us (course r o ts p).2).1,
      (course r o us (course r o ts p).2).2) := by
  induction ts generalizing p with
  | nil => rfl
  | cons t rest ih => rw [List.cons_append, course_cons, ih, course_cons, List.append_assoc]

/-- Unless it waits for the task, a hook makes its call. -/
theorem turn_hook {hook : Hook} {pending : Pending} (h : hook = .shutdown ∨ pending = .taken)
    (l : Life σ) : turn r o (.hook hook) (⟨l.state, pending⟩, l.world) =
      ([(Life.call r o hook.call l).1],
        ⟨(Life.call r o hook.call l).2.state, pending⟩, (Life.call r o hook.call l).2.world) := by
  cases hook with
  | startup =>
    obtain rfl : pending = .taken := h.resolve_left (by decide)
    rfl
  | shutdown => rfl

/-- Hooks that do not wait for the task make their calls. -/
theorem course_hooks {hooks : List Hook} {pending : Pending}
    (h : .startup ∉ hooks ∨ pending = .taken) (l : Life σ) :
    course r o (hooks.map Turn.hook) (⟨l.state, pending⟩, l.world) =
      ((Life.drive r o (hooks.map Hook.call) l).1,
        ⟨(Life.drive r o (hooks.map Hook.call) l).2.state, pending⟩,
        (Life.drive r o (hooks.map Hook.call) l).2.world) := by
  induction hooks generalizing l with
  | nil => rfl
  | cons first rest ih =>
    have hfirst : first = .shutdown ∨ pending = .taken := by
      refine h.imp_left fun hmem => ?_
      cases first with
      | startup => exact absurd List.mem_cons_self hmem
      | shutdown => rfl
    have hrest : .startup ∉ rest ∨ pending = .taken :=
      h.imp_left fun hmem hmem' => hmem (List.mem_cons_of_mem _ hmem')
    rw [List.map_cons, course_cons, turn_hook hfirst, ih hrest]
    rfl

/-- After the task, the first startup takes its result, and all other hooks make their calls. -/
theorem course_of_finished (result : Outcome Error Unit) (hooks : List Hook) (l : Life σ) :
    course r o (hooks.map Turn.hook) (⟨l.state, .finished result⟩, l.world) =
      (answers result hooks (Life.drive r o ((hooks.erase .startup).map Hook.call) l).1,
        ⟨(Life.drive r o ((hooks.erase .startup).map Hook.call) l).2.state,
          if .startup ∈ hooks then .taken else .finished result⟩,
        (Life.drive r o ((hooks.erase .startup).map Hook.call) l).2.world) := by
  induction hooks generalizing l with
  | nil => rfl
  | cons first rest ih =>
    cases first with
    | startup =>
      have hturn : turn r o (.hook .startup) (⟨l.state, .finished result⟩, l.world) =
          ([joined result], ⟨l.state, .taken⟩, l.world) := rfl
      rw [List.erase_cons_head, List.map_cons, course_cons, hturn, course_hooks (.inr rfl),
        if_pos List.mem_cons_self]
      rfl
    | shutdown =>
      rw [List.map_cons, course_cons, turn_hook (.inl rfl), ih,
        List.erase_cons_tail (show (Hook.shutdown == .startup) ≠ true by decide), List.map_cons,
        Life.drive_cons]
      simp [answers]

/-- **A course is a drive**: the task makes the first start, and the first startup after it has its
result; all other hooks make their calls. -/
theorem course_eq {before after : List Hook} (hbefore : .startup ∉ before) {l₀ l₁ l₂ l : Life σ}
    {os₁ os₂ : List (Outcome Error Unit)} {result : Outcome Error Unit}
    (h₁ : Life.drive r o (before.map Hook.call) l₀ = (os₁, l₁))
    (hinit : Life.init r o l₁ = (result, l₂))
    (h₂ : Life.drive r o ((after.erase .startup).map Hook.call) l₂ = (os₂, l)) :
    course r o (before.map Turn.hook ++ .task :: after.map Turn.hook)
        ({ state := l₀.state }, l₀.world) =
      (os₁ ++ answers result after os₂,
        ⟨l.state, if .startup ∈ after then .taken else .finished result⟩, l.world) := by
  have hturn : turn r o .task (⟨l₁.state, .scheduled⟩, l₁.world) =
      ([], ⟨l₂.state, .finished result⟩, l₂.world) := by
    simp only [turn, run, hinit]
  rw [course_append, course_hooks (.inl hbefore), h₁, course_cons, hturn, course_of_finished, h₂]
  rfl

end Background

end DbLifecycle
