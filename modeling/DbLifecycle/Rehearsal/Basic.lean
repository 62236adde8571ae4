import DbLifecycle.Lifecycle.Background
import DbLifecycle.Lifecycle.Scope
import DbLifecycle.Rehearsal.Stage
import DbLifecycle.Service.Routes

/-!
# Rehearsals

A service that is taken through its life step by step, on a stage that goes wrong on cue.

* `Rehearsal`: the stage, the coordinator or what it was handed to, and the host.
* `Step`: what can be asked for; `Rehearsal.Result`: what comes of it.
* `Snapshot`: what can be seen after a step.
-/

namespace DbLifecycle

/-- A coordinator that was handed to a host, with what it needs to start. -/
structure Backed where
  options : Options
  catalog : Catalog
  /-- Whether it works with the script of the stage. -/
  isScripted : Bool
  background : Background
  deriving DecidableEq

/-! ## Steps -/

/-- What the body of a scope ends with. -/
inductive ScopeEnding where
  /-- The aliases of open connections. -/
  | aliases
  | fail (e : Error)
  | panic (text : String)
  deriving DecidableEq, Repr

/-- Handlers to register: the standard ones, or one with a status and a tag. -/
inductive HandlerChoice where
  | standard
  | tagged (kind : ErrorKind) (status : Nat) (tag : String)
  deriving DecidableEq, Repr

/-- Registers the chosen handlers. -/
def HandlerChoice.add (host : Host) : HandlerChoice → Host
  | standard => host.addStandardHandlers
  | tagged kind status tag => host.addHandler kind (taggedHandler status tag)

/-- The kinds of the chosen handlers, in the order they are registered. -/
def HandlerChoice.kinds : HandlerChoice → List ErrorKind
  | standard => standardKinds
  | tagged kind _ _ => [kind]

/-- A step of a rehearsal. -/
inductive Step where
  | init
  | close
  /-- Starts the coordinator and registers its handlers with the host. -/
  | open
  | registerHandlers
  /-- Gives up the coordinator and keeps its connections. -/
  | release
  | scope (body : List Step) (ending : ScopeEnding)
  /-- Hands the coordinator to the host, which starts it in the background. -/
  | background
  /-- Hands a new coordinator to the host, past the script. -/
  | backgroundPlain
  /-- Gives tasks in the background their turn. -/
  | settle
  | aliases
  | startup
  | shutdown
  /-- Runs the host from its first to its last request. -/
  | serve
  | addHandler (choice : HandlerChoice)
  | newHost
  /-- A new coordinator and host, and unless the old connections are kept a new stage. -/
  | renew (options : Options) (catalog : Catalog) (script : Script) (keep : Bool)
  | request (q : Http.Request)
  | require (aliasName : String)
  | openAll (config : Config)
  | closeAll
  | generate (aliasName : String) (models : List String) (safe : Bool)
  | bulkInsert (aliasName : String) (users : List UserInput) (batchSize : Option Nat)
  /-- A step whose data do not fit. -/
  | malformed (m : Mismatch)
  | unknown

/-- Why a step cannot be taken. -/
inductive Refusal where
  | noCoordinator
  | noHost
  | unknownStep
  deriving DecidableEq, Repr

/-- The wording of a refusal. -/
def Refusal.message : Refusal → String
  | noCoordinator => "no coordinator"
  | noHost => "no host"
  | unknownStep => "unknown step"

/-! ## What can be seen -/

/-- What comes of a step. -/
inductive StepResult where
  | done
  | aliases (names : List String)
  /-- The value of a scope. -/
  | value (names : List String)
  | pool (p : Pool)
  | response (r : Http.Response)
  | inserted (n : Nat)
  | refused (why : Refusal)
  | error (e : Error)
  | dbError (e : DbError)
  | panic (text : String)
  | mismatch (m : Mismatch)

/-- The result of an operation without a value. -/
def StepResult.ofOutcome : Outcome Error Unit → StepResult
  | .ok _ => done
  | .error e => error e
  | .panic text => panic text

/-- The result of a scope. -/
def StepResult.ofScope : Outcome Error (List String) → StepResult
  | .ok names => value names
  | .error e => error e
  | .panic text => panic text

/-- The registrations of a host. -/
structure HostView where
  registered : List Registration
  handled : List ErrorKind
  hasHooks : Bool
  deriving DecidableEq, Repr

/-- What can be seen after a step: its result, the state of the coordinator, open connections, calls
so far, the host, and the events of the step. -/
structure Snapshot where
  result : StepResult
  state : Option State
  aliases : List String
  isEmpty : Bool
  opens : Nat
  closes : Nat
  host : Option HostView
  events : List Event

/-! ## Rehearsals -/

/-- A service in a rehearsal. -/
structure Rehearsal where
  stage : Stage
  options : Options
  catalog : Catalog
  /-- The state of the coordinator, until it is given up. -/
  coordinator : Option State := some .unstarted
  /-- The coordinators that were handed to a host, the last one at the end. -/
  backed : List Backed := []
  /-- Those that were handed to a host before this coordinator was made. -/
  left : List Backed := []
  host : Option Host := some {}
  /-- A host that has been run and still answers. -/
  served : Option Host := none
  snapshots : List Snapshot := []

namespace Rehearsal

/-- The rehearsal with another stage. -/
def setStage (s : Stage) (r : Rehearsal) : Rehearsal := { r with stage := s }

/-- The rehearsal with another world on its stage. -/
def setWorld (w : World) (r : Rehearsal) : Rehearsal := r.setStage (r.stage.setWorld w)

/-- The resources of the coordinator. -/
def resources (catalog : Catalog) (isScripted : Bool) : Resources Rehearsal :=
  (if isScripted then Stage.scripted catalog else Stage.plain catalog).zoom stage setStage

/-- Tells an observer. -/
def log (e : Event) (r : Rehearsal) : Rehearsal := r.setWorld (r.stage.world.log e)

/-- The state that can be seen: that of the coordinator, or of the last one handed to a host. -/
def state? (r : Rehearsal) : Option State :=
  r.coordinator <|> r.backed.getLast?.map (·.background.state)

/-- Adds a snapshot with the events since the one before it. -/
def snapshot (result : StepResult) (r : Rehearsal) : Rehearsal :=
  let w := r.stage.world
  let s : Snapshot := {
    result
    state := r.state?
    aliases := w.aliases
    isEmpty := w.pools.entries.isEmpty
    opens := r.stage.opens
    closes := r.stage.closes
    host := r.host.map fun h => ⟨h.registered, h.handledKinds, h.hasHooks⟩
    events := w.events }
  { r.setWorld { w with events := [] } with snapshots := r.snapshots ++ [s] }

end Rehearsal

end DbLifecycle
