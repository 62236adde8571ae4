import DbLifecycle.Outcome

/-!
# Members of groups

The operations that a group runs side by side, on a clock that counts milliseconds.

* `Member`: an operation: it sleeps, may run a group of its own, and ends.
* `Member.fails`: whether it or its group fails or panics.
* `Member.duration`, `Member.groupDuration`: how long an operation and a group take: a group that
  fails takes as long as its quickest failing member, any other as long as its slowest one.
* `Member.work`: a bound on the number of steps an operation takes.
-/

namespace DbLifecycle

/-- How a member ends: with success, with the text of an error, or in a panic. -/
abbrev Ending := Outcome String Unit

/-- An operation of a group. -/
inductive Member where
  /-- Sleeps through its delays and ends. -/
  | plain (delays : List Nat) (ending : Ending)
  /-- Sleeps through its delays, runs a group, and ends if that succeeds. -/
  | grouped (delays : List Nat) (members : List Member) (ending : Ending)
  deriving Repr

namespace Member

/-- The times it sleeps. -/
def delays : Member → List Nat
  | plain ds _ => ds
  | grouped ds _ _ => ds

/-- The same operation with other delays. -/
def withDelays (ds : List Nat) : Member → Member
  | plain _ e => plain ds e
  | grouped _ ms e => grouped ds ms e

/-! ## What to expect -/

mutual

/-- Whether an operation fails or panics, or its group does. -/
def fails : Member → Bool
  | plain _ e => !e.isOk
  | grouped _ ms e => anyFails ms || !e.isOk

/-- Whether one of some operations fails. -/
def anyFails : List Member → Bool
  | [] => false
  | m :: r => fails m || anyFails r

end

/-- The least of two times, of which the second may be missing. -/
def least (t : Nat) : Option Nat → Nat
  | none => t
  | some u => min t u

mutual

/-- How long an operation takes, if nothing cancels it. -/
def duration : Member → Nat
  | plain ds _ => ds.sum
  | grouped ds ms _ => ds.sum + (firstFailure ms).getD (slowest ms)

/-- The time after which the first operation that fails does so, if there is one. -/
def firstFailure : List Member → Option Nat
  | [] => none
  | m :: r => if fails m then some (least (duration m) (firstFailure r)) else firstFailure r

/-- The time after which all operations have ended, if nothing cancels them. -/
def slowest : List Member → Nat
  | [] => 0
  | m :: r => max (duration m) (slowest r)

end

/-- How long a group takes. -/
def groupDuration (ms : List Member) : Nat := (firstFailure ms).getD (slowest ms)

/-! ## Effort -/

mutual

/-- A bound on the number of steps an operation takes: one to start and one to be cancelled; two for
each delay, as it wakes and goes on, and two more if it gives way before; and four for the owner of
its group to hear of its end, of which three are for giving way before. -/
def work : Member → Nat
  | plain ds _ => 4 * ds.length + 6
  | grouped ds ms _ => 4 * ds.length + 6 + groupWork ms

/-- A bound on the number of steps some operations take. -/
def groupWork : List Member → Nat
  | [] => 0
  | m :: r => work m + groupWork r

end

end Member

end DbLifecycle
