/-!
# Outcomes

* `Outcome`: how an operation ended: with a value, with an error, or in a panic.
* `Outcome.map`, `Outcome.mapError`: changing the value or the error.
-/

namespace DbLifecycle

/-- How an operation ended. -/
inductive Outcome (ε α : Type) where
  | ok (value : α)
  | error (e : ε)
  | panic (text : String)
  deriving DecidableEq, Repr

namespace Outcome

variable {ε δ α β : Type}

/-- Changes the value. -/
def map (f : α → β) : Outcome ε α → Outcome ε β
  | ok v => ok (f v)
  | error e => error e
  | panic t => panic t

/-- Changes the error. -/
def mapError (f : ε → δ) : Outcome ε α → Outcome δ α
  | ok v => ok v
  | error e => error (f e)
  | panic t => panic t

/-- A result without panics. -/
def ofExcept : Except ε α → Outcome ε α
  | .ok v => ok v
  | .error e => error e

/-- Whether there is a value. -/
def isOk : Outcome ε α → Bool
  | ok _ => true
  | _ => false

/-- Whether the operation ended in a panic. -/
def isPanic : Outcome ε α → Bool
  | panic _ => true
  | _ => false

end Outcome

end DbLifecycle
