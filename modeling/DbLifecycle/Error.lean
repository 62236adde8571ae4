import DbLifecycle.Config.Error
import DbLifecycle.Database.Error
import DbLifecycle.Lifecycle.State

/-!
# Errors

* `Error`: the errors of the library, by cause.
* `Error.message`, `Error.causes`: the text of an error, and the texts of those beneath it.
* `ErrorKind`: the two kinds that a host can turn into responses of their own.
* `DbError.kind?`, `Error.kind?`: the kind of an error.
-/

namespace DbLifecycle

/-- An error of the library. -/
inductive Error where
  /-- A configuration that is missing, ambiguous or wrong. -/
  | configuration (cause : ConfigError)
  /-- A pool that cannot be opened or closed. -/
  | connection (cause : DbError)
  /-- A table that cannot be created. -/
  | schema (cause : DbError)
  /-- An operation that the state does not allow. -/
  | lifecycle (operation : Operation) (state : State)
  | notFound (text : String)
  | integrityViolation (text : String)
  /-- An alias without an open pool. -/
  | unknownConnection (aliasName : String)
  /-- A background task that cannot be started or was lost. -/
  | runtime (text : String)
  deriving DecidableEq, Repr

namespace Error

/-- The text of an error. -/
def message : Error → String
  | .configuration cause => "Configuration error: " ++ cause.message
  | .connection cause => cause.message
  | .schema cause => "Schema generation failed: " ++ cause.message
  | .lifecycle operation state =>
    "Cannot " ++ operation.words ++ " while the ORM lifecycle is " ++ state.word
  | .notFound text => text
  | .integrityViolation text => text
  | .unknownConnection aliasName => "Connection \"" ++ aliasName ++ "\" is not open"
  | .runtime text => "Runtime error: " ++ text

/-- The texts of the errors beneath. A failed connection shows through: it adds no layer. -/
def causes : Error → List String
  | .connection cause => cause.causes
  | .schema cause => cause.message :: cause.causes
  | _ => []

end Error

/-! ## Kinds -/

/-- The kinds of error that can be turned into a response. -/
inductive ErrorKind where
  | notFound
  | integrityViolation
  deriving DecidableEq, Repr

/-- The name of a kind. -/
def ErrorKind.name : ErrorKind → String
  | .notFound => "NotFound"
  | .integrityViolation => "IntegrityViolation"

/-- The kind of a database error. -/
def DbError.kind? (e : DbError) : Option ErrorKind :=
  match e with
  | .recordNotFound _ => some .notFound
  | e => if e.isConstraint then some .integrityViolation else none

/-- The kind of an error. -/
def Error.kind? : Error → Option ErrorKind
  | .notFound _ => some .notFound
  | .integrityViolation _ => some .integrityViolation
  | .connection cause => cause.kind?
  | .schema cause => cause.kind?
  | _ => none

end DbLifecycle
