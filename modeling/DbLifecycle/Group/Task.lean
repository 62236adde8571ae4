import DbLifecycle.Group.Member

/-!
# Tasks

A task carries out an operation. It runs as far as it can without waiting, then gives way to others.

* `TaskId`: a task by its place.
* `Entry`: what is recorded about tasks.
* `Crew`: the tasks that a group has started, as their owner sees them.
* `Crew.take`: what the owner makes of the results that have come in.
* `Task`: how far an operation has come.
-/

namespace DbLifecycle

/-! ## Places -/

/-- A task by its way from the outermost group, or among the tasks outside of it. -/
structure TaskId where
  outside : Bool
  path : List Nat
  deriving DecidableEq, Repr

namespace TaskId

/-- The owner of the outermost group. -/
def root : TaskId := ⟨false, []⟩

/-- What stands above the tasks outside of the group. -/
def outer : TaskId := ⟨true, []⟩

/-- The task at a place of a task's own group. -/
def child (id : TaskId) (i : Nat) : TaskId := { id with path := id.path ++ [i] }

/-- The owner of the group that a task belongs to, and its place there. -/
def parent? (id : TaskId) : Option (TaskId × Nat) :=
  id.path.getLast?.map fun i => ({ id with path := id.path.dropLast }, i)

theorem parent?_child (id : TaskId) (i : Nat) : (id.child i).parent? = some (id, i) := by
  simp [child, parent?]

end TaskId

/-! ## Records -/

/-- The points in the life of a task. -/
inductive Mark where
  | start
  | step
  | groupOk
  | done
  | failed
  | cancelled
  | panicked
  deriving DecidableEq, Repr

/-- The last mark of a task that comes to its end. -/
def Mark.ofEnding : Ending → Mark
  | .ok _ => done
  | .error _ => failed
  | .panic _ => panicked

/-- The last mark of a task that stops because its own group did not succeed. -/
def Mark.ofStop : Ending → Mark
  | .panic _ => panicked
  | _ => cancelled

/-- Whether nothing can follow a mark. -/
def Mark.isLast : Mark → Bool
  | .done | .failed | .cancelled | .panicked => true
  | _ => false

/-- What is recorded: a mark of a task, or that a group cancels what is left, with the number of
results it has not taken. -/
inductive Entry where
  | mark (time : Nat) (id : TaskId) (what : Mark)
  | cancelling (time inFlight : Nat)
  deriving DecidableEq, Repr

/-! ## Groups -/

/-- How a task has ended; nothing if it was cancelled. -/
abbrev Result := Option Ending

/-- The first result that is a failure, with the number of results behind it. -/
def Result.firstFailure : List Result → Option (Ending × Nat)
  | [] => none
  | none :: r | some (.ok _) :: r => firstFailure r
  | some e :: r => some (e, r.length)

/-- How much a task can do in one turn: a delay that is over and a result that is taken count one
each. -/
def stamina : Nat := 128

/-- The tasks that a group has started, as their owner sees them. -/
structure Crew where
  /-- The places of those that have not ended, in the order of their start. -/
  running : List Nat
  /-- The results that have not been taken, in the order in which they came in. -/
  results : List Result := []
  /-- The results that were set aside when the owner could take no more, the last first. -/
  aside : List Result := []
  /-- Whether the next result calls the owner. -/
  watched : Bool := false
  /-- The first failure that the owner has seen. -/
  failure : Option Ending := none
  deriving DecidableEq, Repr

namespace Crew

/-- The tasks of a group that has just been started. -/
def ofSize (n : Nat) : Crew := { running := List.range n }

/-- The number of tasks that have not ended or whose results have not been taken. -/
def size (c : Crew) : Nat := c.running.length + c.results.length + c.aside.length

/-- What comes of a look at the results, of which the first `n` can be taken: the crew without
them, and, if a first failure was among them, how many tasks were left behind it. -/
def take (c : Crew) (n : Nat) : Crew × Option Nat :=
  let rest := { c with results := c.results.drop n }
  match c.failure, Result.firstFailure (c.results.take n) with
  | none, some (e, behind) => ({ rest with failure := some e }, some (behind + rest.size))
  | _, _ => (rest, none)

/-- The next result is set aside. -/
def setAside (c : Crew) : Crew :=
  match c.results with
  | [] => c
  | r :: rest => { c with results := rest, aside := r :: c.aside }

/-- The result that was set aside last comes in again. -/
def callBack (c : Crew) : Crew :=
  match c.aside with
  | [] => c
  | r :: rest => { c with aside := rest, results := c.results ++ [r], watched := false }

/-- The end of a group: its first failure, or success. It ends when all its tasks have, and all
results are taken. -/
def ending? (c : Crew) : Option Ending :=
  if c.size = 0 then some (c.failure.getD (.ok ())) else none

/-- A result comes in. -/
def announce (c : Crew) (place : Nat) (r : Result) : Crew :=
  { c with running := c.running.erase place, results := c.results ++ [r], watched := false }

end Crew

/-! ## Tasks -/

/-- How far an operation has come. -/
inductive Task where
  | fresh (m : Member)
  /-- Sleeps; the rest of its delays is before it. -/
  | asleep (m : Member)
  /-- Gave way to others; all its delays are before it. -/
  | yielded (m : Member)
  /-- Waits for its group. -/
  | waiting (crew : Crew) (ending : Ending)
  | ended
  deriving Repr

/-- The tasks of a waiting task that have not ended. -/
def Task.running : Task → List Nat
  | .waiting crew _ => crew.running
  | _ => []

/-- Whether a task has started and not ended, so that its cancellation is recorded. -/
def Task.isUnderWay : Task → Bool
  | .asleep _ | .yielded _ | .waiting _ _ => true
  | _ => false

end DbLifecycle
