import DbLifecycle.Failure
import DbLifecycle.Http.Message

/-!
# Hosts

A host answers for its routes. Where a route fails with an error of a kind that a handler is
registered for, the handler's response replaces the general one.

* `Handler`: the response to a failure.
* `Host`: the handlers by kind, and what was registered, in order.
* `Host.addHandler`, `Host.installHooks`: registrations; a later handler replaces one of its kind.
* `Failure.response`: the general response to a failure.
* `Answer`, `Host.responseTo`: what a route gives, and what the host makes of it.
* `notFoundResponse`, `integrityResponse`: the responses of the two standard handlers.
-/

namespace DbLifecycle

open Http

/-- The response to a failure. -/
abbrev Handler := Failure → Response

/-- What can be registered with a host. -/
inductive Registration where
  | handler (kind : ErrorKind)
  /-- Hooks to run before the first and after the last request. -/
  | hooks
  deriving DecidableEq, Repr

/-- The handlers of a host, whether it has hooks, and all registrations in order. -/
structure Host where
  handlers : ErrorKind → Option Handler := fun _ => none
  hasHooks : Bool := false
  registered : List Registration := []

namespace Host

/-- Registers a handler for a kind of error. -/
def addHandler (host : Host) (kind : ErrorKind) (handler : Handler) : Host :=
  { host with
    handlers := fun k => if k = kind then some handler else host.handlers k
    registered := host.registered ++ [.handler kind] }

/-- Installs hooks. -/
def installHooks (host : Host) : Host :=
  { host with hasHooks := true, registered := host.registered ++ [.hooks] }

/-- The kinds that have a handler. -/
def handledKinds (host : Host) : List ErrorKind :=
  [.integrityViolation, .notFound].filter fun k => (host.handlers k).isSome

end Host

/-! ## Responses to failures -/

/-- The general response: a client's fault if bounds are violated, otherwise the server's. -/
def Failure.response (f : Failure) : Response :=
  let status := match f.cause with
    | .invalid _ => 400
    | _ => 500
  .json status (.obj [("error", .str f.message)])

/-- What is not there. -/
def notFoundResponse (message : String) : Response :=
  .json 404 (.obj [("detail", .str message)])

/-- A violated constraint, in the form of a refused request. -/
def integrityResponse (message : String) : Response :=
  .json 422 (.obj [("detail",
    .arr [.obj [("loc", .arr []), ("msg", .str message), ("type", .str "IntegrityError")]])])

/-- The standard response to a kind of error. -/
def ErrorKind.response : ErrorKind → String → Response
  | .notFound => notFoundResponse
  | .integrityViolation => integrityResponse

/-- The standard handler of a kind. -/
def ErrorKind.standardHandler (kind : ErrorKind) : Handler := fun f => kind.response f.message

/-- A handler with a status of its own, whose body has the text of the failure and a tag. -/
def taggedHandler (status : Nat) (tag : String) : Handler := fun f =>
  .json status (.obj [("message", .str f.message), ("tag", .str tag)])

/-- The kinds of the standard handlers, in the order they are registered. -/
def standardKinds : List ErrorKind := [.notFound, .integrityViolation]

/-- Registers the standard handlers. -/
def Host.addStandardHandlers (host : Host) : Host :=
  standardKinds.foldl (fun h k => h.addHandler k k.standardHandler) host

/-! ## Answers -/

/-- What a route gives: a response, and the failure it stands for, if it does. -/
structure Answer where
  response : Response
  failure : Option Failure := none

/-- The answer that a failure gives. -/
def Answer.ofFailure (f : Failure) : Answer := ⟨f.response, some f⟩

/-- The handler that answers for a route. -/
def Host.handlerFor? (host : Host) (a : Answer) : Option (Failure × Handler) :=
  a.failure.bind fun f => (f.kind?.bind host.handlers).map fun h => (f, h)

/-- The response of the host to what a route gives. -/
def Host.responseTo (host : Host) (a : Answer) : Response :=
  match host.handlerFor? a with
  | some (f, h) => h f
  | none => a.response

end DbLifecycle
