import DbLifecycle.Group.Task

/-!
# Gathering a group

The outermost group, beside tasks that do not belong to it. Tasks that can run stand in a queue and
run one after the other, each as far as it can without waiting; time passes only when nothing can
run. The owner of the outermost group looks at its results when the queue is empty, or after a
round of tasks. A task that has done much in one turn gives way to others until the round is over.

When a task fails, its group cancels those of its tasks that have not ended, and waits for them: a
cancelled task is put into the queue, and ends when its turn comes. So tasks that are in the queue
already, before their owner has looked at the failure, still run on.

* `Gathering`: the clock, the tasks, the queue, and the records before and after the group returns.
* `Gathering.step`: a look at the results, or a run of the first task in the queue, or the passing
  of time to the next moment at which a task wakes.
* `gather`: all steps.
-/

namespace DbLifecycle

/-- A group and the tasks outside of it. -/
structure Gathering where
  now : Nat := 0
  /-- All tasks; those that do not exist count as ended. -/
  tasks : TaskId → Task := fun _ => .ended
  /-- The tasks that can run, in the order in which they will. -/
  queue : List TaskId := []
  /-- The tasks that are to be cancelled when their turn comes. -/
  doomed : List TaskId := []
  /-- When the sleeping tasks wake, in the order in which they fell asleep. -/
  alarms : List (Nat × TaskId) := []
  /-- Whether the owner of the outermost group is called to look at its results. -/
  called : Bool := false
  /-- How many tasks have run in this round. -/
  ran : Nat := 0
  /-- How much the task whose turn it is can still do. -/
  left : Nat := stamina
  /-- The tasks that gave way in this round, the last first. -/
  deferred : List TaskId := []
  /-- When and how the group returned. -/
  returned : Option (Nat × Ending) := none
  /-- What was recorded until the group returned. -/
  entries : List Entry := []
  /-- What was recorded after that. -/
  later : List Entry := []

namespace Gathering

/-! ## Records and changes -/

/-- Adds to the records. -/
def record (g : Gathering) (es : List Entry) : Gathering :=
  match g.returned with
  | none => { g with entries := g.entries ++ es }
  | some _ => { g with later := g.later ++ es }

/-- Records a mark of a task. -/
def mark (g : Gathering) (id : TaskId) (what : Mark) : Gathering :=
  g.record [.mark g.now id what]

/-- Sets what a task is doing. -/
def set (g : Gathering) (id : TaskId) (t : Task) : Gathering :=
  { g with tasks := fun i => if i = id then t else g.tasks i }

/-- Sees to it that a task runs; one that is in the queue keeps its place. -/
def wake (g : Gathering) (id : TaskId) : Gathering :=
  if id = .root then { g with called := true }
  else if id ∈ g.queue then g
  else { g with queue := g.queue ++ [id] }

/-! ## Starting, cancelling and ending tasks -/

/-- Starts the tasks of a group, from a place on. -/
def startAll (g : Gathering) (owner : TaskId) (place : Nat) : List Member → Gathering
  | [] => g
  | m :: r => startAll ((g.set (owner.child place) (.fresh m)).wake (owner.child place))
      owner (place + 1) r

/-- Cancels a task that has not ended, as soon as its turn comes. -/
def abort (g : Gathering) (id : TaskId) : Gathering :=
  match g.tasks id with
  | .ended => g
  | _ => { g with doomed := id :: g.doomed }.wake id

/-- Cancels some tasks of a group. -/
def abortAll (g : Gathering) (owner : TaskId) (places : List Nat) : Gathering :=
  places.foldl (fun g i => g.abort (owner.child i)) g

/-- Ends a task, and tells the owner of its group. -/
def finish (g : Gathering) (id : TaskId) (r : Result) : Gathering :=
  let g := g.set id .ended
  match id.parent? with
  | none => g
  | some (owner, place) =>
    match g.tasks owner with
    | .waiting crew ending =>
      let told := g.set owner (.waiting (crew.announce place r) ending)
      if crew.watched then told.wake owner else told
    | _ => g

/-- Cancels a task: its own group is cancelled with it. -/
def drop (g : Gathering) (id : TaskId) : Gathering :=
  let t := g.tasks id
  let g := if t.isUnderWay then g.mark id .cancelled else g
  let g := { g with alarms := g.alarms.filter (·.2 != id) }
  (g.abortAll id t.running).finish id none

/-! ## Running tasks -/

/-- Ends a task with the outcome of its operation. -/
def conclude (g : Gathering) (id : TaskId) (e : Ending) : Gathering :=
  (g.mark id (.ofEnding e)).finish id (some e)

/-- Ends the owner of a group when all the tasks of that have ended. The owner of the outermost
group returns; any other goes on to its own end, or stops with the failure. -/
def leave (g : Gathering) (owner : TaskId) (ending : Ending) (e : Ending) : Gathering :=
  if owner = .root then { g.set owner .ended with returned := some (g.now, e) }
  else
    match e with
    | .ok _ => (g.mark owner .groupOk).conclude owner ending
    | stop => (g.mark owner (.ofStop stop)).finish owner (some stop)

/-- The owner of a group looks again after it has given way, as there are more results than it can
take. -/
def defer (g : Gathering) (owner : TaskId) (crew : Crew) (ending : Ending) : Gathering :=
  { g.set owner (.waiting crew.setAside ending) with deferred := owner :: g.deferred }.wake owner

/-- Looks at the results of a group: the first failure cancels the tasks that have not ended. -/
def review (g : Gathering) (owner : TaskId) : Gathering :=
  match g.tasks owner with
  | .waiting crew ending =>
    let (crew, cancels) := crew.take g.left
    let g := match cancels with
      | some n => (g.record [.cancelling g.now n]).abortAll owner crew.running
      | none => g
    let crew := { crew with watched := true }
    match crew.ending? with
    | some e => g.leave owner ending e
    | none =>
      if crew.results.isEmpty then g.set owner (.waiting crew ending)
      else g.defer owner crew ending
  | _ => g

/-- What an operation does when its delays are over. -/
def afterDelays (g : Gathering) (id : TaskId) : Member → Gathering
  | .plain _ e => g.conclude id e
  | .grouped _ ms e =>
    ((g.set id (.waiting (.ofSize ms.length) e)).startAll id 0 ms).review id

/-- Goes on with an operation that has some delays before it. -/
def sleep (g : Gathering) (id : TaskId) (m : Member) : List Nat → Gathering
  | [] => g.afterDelays id m
  | d :: r =>
    if g.left = 0 then
      { g.set id (.yielded (m.withDelays (d :: r))) with deferred := id :: g.deferred }
    else if d = 0 then ({ g with left := g.left - 1 }.mark id .step).sleep id m r
    else { g.set id (.asleep (m.withDelays r)) with alarms := g.alarms ++ [(g.now + d, id)] }

/-- A task has its turn. -/
def run (g : Gathering) (id : TaskId) : Gathering :=
  if id ∈ g.doomed then g.drop id
  else
    match g.tasks id with
    | .fresh m => (g.mark id .start).sleep id m m.delays
    | .asleep m => ({ g with left := g.left - 1 }.mark id .step).sleep id m m.delays
    | .yielded m => g.sleep id m m.delays
    | .waiting _ _ => g.review id
    | .ended => g

/-! ## Time -/

/-- The earliest of some alarms. -/
def earliest : List (Nat × TaskId) → Option Nat
  | [] => none
  | a :: r => some (match earliest r with
    | some t => min a.1 t
    | none => a.1)

/-- Lets time pass until the next task wakes. -/
def wait (g : Gathering) : Gathering :=
  match earliest g.alarms with
  | none => g
  | some t =>
    let due := g.alarms.filter (·.1 ≤ t)
    let g := { g with now := t, ran := 0, alarms := g.alarms.filter (t < ·.1) }
    due.foldl (fun g a => g.wake a.2) g

/-- The number of tasks in a round. -/
def round : Nat := 61

/-- Calls back a task that gave way. -/
def resume (g : Gathering) (id : TaskId) : Gathering :=
  match g.tasks id with
  | .yielded _ => g.wake id
  | .waiting crew ending =>
    let told := g.set id (.waiting crew.callBack ending)
    if crew.watched then told.wake id else told
  | _ => g

/-- What happens between two rounds: the tasks that gave way are called back, the last first, and
then the owner of the outermost group looks at its results if it is called. -/
def turnRound (g : Gathering) : Gathering :=
  let g := g.deferred.foldl resume { g with ran := 0, deferred := [] }
  if g.called then { g with called := false, left := stamina }.review .root else g

/-- What happens next. A round ends when the queue is empty, or when it has had its number of
tasks. -/
def step (g : Gathering) : Gathering :=
  if (g.queue.isEmpty || g.ran == round) && (g.called || !g.deferred.isEmpty) then g.turnRound
  else
    match g.queue with
    | id :: rest =>
      { g with
        queue := rest
        ran := if g.ran == round then 1 else g.ran + 1
        left := stamina }.run id
    | [] => g.wait

/-- Some steps. -/
def steps : Nat → Gathering → Gathering
  | 0, g => g
  | n + 1, g => steps n g.step

/-- The beginning: the tasks outside stand first in the queue. A group without members returns
before anything runs. -/
def start (members outside : List Member) : Gathering :=
  let g : Gathering := {}
  let g := g.startAll .outer 0 outside
  let g := g.set .root (.waiting (.ofSize members.length) (.ok ()))
  (g.startAll .root 0 members).review .root

/-- A number of steps after which nothing happens any more. -/
def bound (members outside : List Member) : Nat :=
  Member.groupWork members + Member.groupWork outside + 1

end Gathering

/-- Runs a group, beside tasks outside of it, to the end of all. -/
def gather (members outside : List Member) : Gathering :=
  Gathering.steps (Gathering.bound members outside) (Gathering.start members outside)

end DbLifecycle
