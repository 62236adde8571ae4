/-!
# States of the life cycle

* `State`: unstarted, initializing, ready, closed.
* `Operation`: what can be asked for in a state.
-/

namespace DbLifecycle

/-- Where a coordinator is in its life. -/
inductive State where
  | unstarted
  | initializing
  | ready
  | closed
  deriving DecidableEq, Repr, Inhabited

/-- The word for a state. -/
def State.word : State → String
  | .unstarted => "unstarted"
  | .initializing => "initializing"
  | .ready => "ready"
  | .closed => "closed"

/-- The operations that depend on the state. -/
inductive Operation where
  | init
  | close
  | registerHandlers
  deriving DecidableEq, Repr

/-- The words for an operation. -/
def Operation.words : Operation → String
  | .init => "initialize"
  | .close => "close"
  | .registerHandlers => "register exception handlers"

end DbLifecycle
