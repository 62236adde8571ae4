import DbLifecycle.Error

/-!
# Events

What the library tells an observer while it works.

* `Event`: what happened. Events about pools name the pool, so that a run can be followed pool by
  pool.
* `Event.level`, `Event.text`, `Event.fields`: an event as a line of a log shows it.
-/

namespace DbLifecycle

/-- Something that happened. -/
inductive Event where
  | opened (aliasName : String) (pool : Nat)
  | openFailed (aliasName : String) (e : DbError)
  | closed (aliasName : String) (pool : Nat)
  | started (connections apps : List String)
  | generating
  | noModels (app : String)
  | creating (app schema : String)
  | undoFailed (e : DbError)
  | rollbackFailed (e : DbError)
  | shutDown
  | handlersRegistered
  | handlerRegistered (kind : ErrorKind)
  | scheduled
  | closeFailedAfterPanic (e : Error)
  | closeFailedAfterError (e : Error)
  | handlerApplied (text : String)
  | hostStarted
  | hostStopped
  | cancelling (inFlight : Nat)
  deriving DecidableEq, Repr

/-- How much an event matters. -/
inductive Level where
  | debug
  | info
  | warn
  deriving DecidableEq, Repr

/-- The word for a level. -/
def Level.word : Level → String
  | .debug => "DEBUG"
  | .info => "INFO"
  | .warn => "WARN"

namespace Event

/-- How much an event matters. -/
def level : Event → Level
  | .opened .. | .closed .. | .noModels .. | .creating .. | .handlerRegistered .. => .debug
  | .handlerApplied .. | .cancelling .. => .debug
  | .started .. | .generating | .shutDown | .handlersRegistered => .info
  | .hostStarted | .hostStopped => .info
  | .openFailed .. | .undoFailed .. | .rollbackFailed .. | .scheduled => .warn
  | .closeFailedAfterPanic .. | .closeFailedAfterError .. => .warn

/-- The text of an event. -/
def text : Event → String
  | .opened .. => "Connection opened"
  | .openFailed .. => "Failed to open connection"
  | .closed .. => "Connection closed"
  | .started .. => "ORM started"
  | .generating => "ORM generating schema"
  | .noModels .. => "No models to create"
  | .creating .. => "Creating schema"
  | .undoFailed .. => "Failed to close connections after open failure"
  | .rollbackFailed .. => "Failed to close connections after schema failure"
  | .shutDown => "ORM shutdown"
  | .handlersRegistered => "ORM exception handlers registered"
  | .handlerRegistered .. => "Exception handler registered"
  | .scheduled =>
    "ORM initialization scheduled in background; serve requests only after host startup"
  | .closeFailedAfterPanic .. => "Failed to close ORM after panic"
  | .closeFailedAfterError .. => "Failed to close ORM after error"
  | .handlerApplied .. => "Translating error response"
  | .hostStarted => "Host started"
  | .hostStopped => "Host stopped"
  | .cancelling .. => "Operation failed, cancelling remaining operations"

/-- The details of an event by name. -/
def fields : Event → List (String × String)
  | .opened aliasName _ => [("alias", aliasName)]
  | .openFailed aliasName e => [("alias", aliasName), ("error", e.message)]
  | .closed aliasName _ => [("alias", aliasName)]
  | .started connections apps =>
    [("apps", Text.quotedList apps), ("connections", Text.quotedList connections)]
  | .noModels app => [("app", app)]
  | .creating app schema => [("app", app), ("schema", schema)]
  | .undoFailed e => [("error", e.message)]
  | .rollbackFailed e => [("error", e.message)]
  | .handlerRegistered kind => [("kind", kind.name)]
  | .closeFailedAfterPanic e => [("error", e.message)]
  | .closeFailedAfterError e => [("error", e.message)]
  | .handlerApplied text => [("error", text)]
  | .cancelling n => [("in_flight", toString n)]
  | _ => []

end Event

end DbLifecycle
