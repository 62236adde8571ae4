import DbLifecycle.Lifecycle.Coordinator

/-!
# Starting in the background

A coordinator given to a host starts in a task of its own; the host's hooks wait for that task,
start again later, and close.

* `Background`: the coordinator's state, and what became of the task.
* `Background.register`: hands a coordinator to a host.
* `Background.run`: the task, when it gets its turn.
* `Background.startup`, `Background.shutdown`: the hooks.
-/

namespace DbLifecycle

/-- What became of the task that starts the coordinator. -/
inductive Pending where
  /-- It has not had its turn. -/
  | scheduled
  /-- It has ended, and nobody has asked for its result. -/
  | finished (result : Outcome Error Unit)
  /-- Its result has been taken. -/
  | taken
  deriving DecidableEq, Repr

/-- A coordinator that starts in the background. -/
structure Background where
  state : State := .unstarted
  pending : Pending := .scheduled
  deriving DecidableEq, Repr

namespace Background

variable {σ : Type}

/-- Tasks need something to run on. -/
def noExecutor : Error :=
  .runtime "there is no reactor running, must be called from the context of a Tokio 1.x runtime"

/-- Hands a coordinator to a host: its task is scheduled, the handlers are registered at once if the
options ask for it, and the hooks are installed. -/
def register (r : Resources σ) (o : Options) (state : State) (host : Host) (w : σ) :
    Background × Host × σ :=
  let w := r.log .scheduled w
  let (host, w) := if o.addHandlers then Life.installHandlers r host w else (host, w)
  ({ state }, host.installHooks, w)

/-- The task's turn. -/
def run (r : Resources σ) (o : Options) (b : Background) (w : σ) : Background × σ :=
  match b.pending with
  | .scheduled =>
    let (result, l) := Life.init r o ⟨b.state, w⟩
    (⟨l.state, .finished result⟩, l.world)
  | _ => (b, w)

/-- The result of the task as who waits for it sees it. -/
def joined : Outcome Error Unit → Outcome Error Unit
  | .panic text => .error (.runtime ("task # panicked with message " ++ Text.quoted text))
  | result => result

/-- The hook before the first request: waits for the task; later calls start anew. -/
def startup (r : Resources σ) (o : Options) (b : Background) (w : σ) :
    Outcome Error Unit × Background × σ :=
  let (b, w) := run r o b w
  match b.pending with
  | .finished result => (joined result, { b with pending := .taken }, w)
  | _ =>
    let (result, l) := Life.init r o ⟨b.state, w⟩
    (result, { b with state := l.state }, l.world)

/-- The hook after the last request: closes. -/
def shutdown (r : Resources σ) (b : Background) (w : σ) : Outcome Error Unit × Background × σ :=
  let (result, l) := Life.close r ⟨b.state, w⟩
  (result, { b with state := l.state }, l.world)

end Background

end DbLifecycle
