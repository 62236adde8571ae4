import DbLifecycle.Error
import DbLifecycle.Validation

/-!
# Failures

The error a route fails with: an error of any sort, under any number of texts that say what was
being done.

* `Failure.Cause`: the sorts of errors.
* `Failure`: a cause and its context.
* `Failure.message`, `Failure.chain`: the outermost text, and all texts from the outside in.
* `Failure.kind?`: the kind of the cause, seen through the context and nothing else.
-/

namespace DbLifecycle

/-- The sorts of errors a route can fail with. -/
inductive Failure.Cause where
  | library (e : Error)
  | database (e : DbError)
  | invalid (e : Invalid)
  /-- An error known by its text only. -/
  | other (text : String)
  /-- An error of another sort around an error, with a text of its own or without one. -/
  | around (text : Option String) (inner : Cause)
  deriving DecidableEq, Repr

/-- An error of the library inside an error of another sort. -/
def Failure.Cause.boxed (inner : Error) : Failure.Cause := .around none (.library inner)

/-- An error under context texts, the innermost first. -/
structure Failure where
  cause : Failure.Cause
  context : List String := []
  deriving DecidableEq, Repr

namespace Failure

/-- The text of a cause. -/
def Cause.message : Cause → String
  | .library e => e.message
  | .database e => e.message
  | .invalid e => e.message
  | .other text => text
  | .around (some text) _ => text
  | .around none inner => inner.message

/-- The texts beneath a cause. What has no text of its own adds no layer. -/
def Cause.causes : Cause → List String
  | .library e => e.causes
  | .database e => e.causes
  | .around (some _) inner => inner.message :: inner.causes
  | .around none inner => inner.causes
  | _ => []

/-- The outermost text. -/
def message (f : Failure) : String := (f.context.getLast?).getD f.cause.message

/-- All texts from the outside in. -/
def chain (f : Failure) : List String := f.context.reverse ++ f.cause.message :: f.cause.causes

/-- The kind of a cause. An error of another sort has none, whatever is inside it. -/
def Cause.kind? : Cause → Option ErrorKind
  | .library e => e.kind?
  | .database e => e.kind?
  | _ => none

/-- The kind of a failure. -/
def kind? (f : Failure) : Option ErrorKind := f.cause.kind?

/-- An error of the library without context. -/
def ofError (e : Error) : Failure := ⟨.library e, []⟩

/-- A database error without context. -/
def ofDbError (e : DbError) : Failure := ⟨.database e, []⟩

/-- Violated bounds without context. -/
def ofInvalid (e : Invalid) : Failure := ⟨.invalid e, []⟩

end Failure

end DbLifecycle
