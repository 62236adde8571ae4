import DbLifecycle.Database.Bulk
import DbLifecycle.Rehearsal.Basic

/-!
# Performing steps

* `Rehearsal.perform`: what a step does, and what comes of it.
* `Rehearsal.performAll`: steps one after another, with a snapshot after each. The steps of a
  scope's body come before the scope itself.
-/

namespace DbLifecycle

namespace Rehearsal

/-! ## The coordinator -/

/-- A step of the coordinator alone. -/
def onLife (f : Resources Rehearsal → Life Rehearsal → Outcome Error Unit × Life Rehearsal)
    (r : Rehearsal) : StepResult × Rehearsal :=
  match r.coordinator with
  | none => (.refused .noCoordinator, r)
  | some state =>
    let (o, l) := f (resources r.catalog true) ⟨state, r⟩
    (.ofOutcome o, { l.world with coordinator := some l.state })

/-- A step of the coordinator with the host. -/
def onHost (f : Resources Rehearsal → Host → Life Rehearsal →
    Outcome Error Unit × Host × Life Rehearsal) (r : Rehearsal) : StepResult × Rehearsal :=
  match r.host, r.coordinator with
  | none, _ => (.refused .noHost, r)
  | some _, none => (.refused .noCoordinator, r)
  | some host, some state =>
    let (o, host, l) := f (resources r.catalog true) host ⟨state, r⟩
    (.ofOutcome o, { l.world with coordinator := some l.state, host := some host })

/-! ## In the background -/

/-- The resources of a coordinator in the background. -/
def backedResources (b : Backed) : Resources Rehearsal := resources b.catalog b.isScripted

/-- Gives tasks their turn, one after another. -/
def runTasks : List Backed → Rehearsal → List Backed × Rehearsal
  | [], r => ([], r)
  | b :: rest, r =>
    let (background, r) := b.background.run (backedResources b) b.options r
    let (rest, r) := runTasks rest r
    ({ b with background } :: rest, r)

/-- Gives all tasks in the background their turn. -/
def settle (r : Rehearsal) : Rehearsal :=
  let (left, r) := runTasks r.left r
  let (backed, r) := runTasks r.backed r
  { r with left, backed }

/-- Hands a coordinator to the host. -/
def hand (isScripted : Bool) (state : State) (host : Host) (r : Rehearsal) : Rehearsal :=
  let (background, host, r) :=
    Background.register (resources r.catalog isScripted) r.options state host r
  { r with
    coordinator := none
    host := some host
    backed := r.backed ++ [⟨r.options, r.catalog, isScripted, background⟩] }

/-- Runs a hook of the last coordinator handed to a host, if the host has hooks. -/
def onHook (f : Backed → Background → Rehearsal → Outcome Error Unit × Background × Rehearsal)
    (host : Host) (r : Rehearsal) : Outcome Error Unit × Rehearsal :=
  if host.hasHooks then
    match r.backed.getLast? with
    | none => (.ok (), r)
    | some b =>
      let (o, background, r) := f b b.background r
      (o, { r with backed := r.backed.dropLast ++ [{ b with background }] })
  else (.ok (), r)

/-- The hook before the first request. Who waits for a task lets the others have their turn. -/
def startup (host : Host) (r : Rehearsal) : Outcome Error Unit × Rehearsal :=
  onHook (fun b => Background.startup (backedResources b) b.options) host
    (if host.hasHooks then r.settle else r)

/-- The hook after the last request. -/
def shutdown (host : Host) (r : Rehearsal) : Outcome Error Unit × Rehearsal :=
  onHook (fun b => Background.shutdown (backedResources b)) host r

/-- A step of the host alone. -/
def withHost (f : Host → Rehearsal → StepResult × Rehearsal) (r : Rehearsal) :
    StepResult × Rehearsal :=
  match r.host with
  | none => (.refused .noHost, r)
  | some host => f host r

/-- Registers handlers and tells an observer about each of them. -/
def addHandlers (choice : HandlerChoice) (host : Host) (r : Rehearsal) : Rehearsal :=
  choice.kinds.foldl (fun r k => r.log (.handlerRegistered k))
    { r with host := some (choice.add host) }

/-- Runs a host: it is stopped as soon as it has started. One that cannot start is not stopped. -/
def serve (host : Host) (r : Rehearsal) : StepResult × Rehearsal :=
  match startup host { r with host := none, served := some host } with
  | (.ok _, r) =>
    match shutdown host (r.log .hostStarted) with
    | (.panic text, r) => (.panic text, r)
    | (o, r) => (.ofOutcome o, r.log .hostStopped)
  | (o, r) => (.ofOutcome o, r)

/-! ## Connections -/

/-- Works with the open pool of an alias. -/
def withPool (aliasName : String) (f : Pool → Rehearsal → StepResult × Rehearsal) (r : Rehearsal) :
    StepResult × Rehearsal :=
  match r.stage.world.require aliasName with
  | .ok pool => f pool r
  | .error e => (.error e, r)

/-- Sends a request to the host, or to the one that has been run. -/
def request (q : Http.Request) (r : Rehearsal) : StepResult × Rehearsal :=
  match r.host <|> r.served with
  | none => (.refused .noHost, r)
  | some host =>
    let (response, w) := host.respond q r.stage.world
    (.response response, r.setWorld w)

/-- Opens the connections of a configuration. -/
def openAll (c : Config) (r : Rehearsal) : StepResult × Rehearsal :=
  let (o, s) := r.stage.openAll c
  (.ofOutcome o, r.setStage s)

/-- Closes all connections. -/
def closeAll (r : Rehearsal) : StepResult × Rehearsal :=
  match r.stage.closeAll with
  | (.ok _, s) => (.done, r.setStage s)
  | (.error e, s) => (.dbError e, r.setStage s)
  | (.panic text, s) => (.panic text, r.setStage s)

/-- The app in whose name single steps create tables. -/
def stepApp : String := "step"

/-- Creates tables on a pool. -/
def generate (models : List String) (safe : Bool) (pool : Pool) (r : Rehearsal) :
    StepResult × Rehearsal :=
  let (o, w) := r.stage.world.generate .standard r.catalog pool stepApp models safe
  (.ofOutcome o, r.setWorld w)

/-- Inserts users in batches. -/
def bulkInsert (users : List UserInput) (batchSize : Option Nat) (pool : Pool) (r : Rehearsal) :
    StepResult × Rehearsal :=
  match r.stage.world.bulkInsert pool users batchSize with
  | (.ok n, w) => (.inserted n, r.setWorld w)
  | (.error e, w) => (.dbError e, r.setWorld w)

/-- A new stage on the same disk; the pools of the old one are gone without a word. -/
def freshStage (script : Script) (s : Stage) : Stage :=
  { world := { (s.world.closeAll .standard).2 with events := s.world.events }, script }

/-- A new coordinator and a new host with a new script. If the connections are kept, what is under
way in the background still works on them. -/
def renew (options : Options) (catalog : Catalog) (script : Script) (keep : Bool) (r : Rehearsal) :
    Rehearsal :=
  { stage := if keep then { r.stage with script } else freshStage script r.stage
    options
    catalog
    left := if keep then r.left ++ r.backed else []
    snapshots := r.snapshots }

/-! ## Scopes -/

/-- What the body of a scope ends with. -/
def endScope (r : Rehearsal) : ScopeEnding → Outcome Error (List String)
  | .aliases => .ok r.stage.world.aliases
  | .fail e => .error e
  | .panic text => .panic text

/-- Gives the coordinator and the host to a scope. The host comes back if the body runs. -/
def scope (body : Rehearsal → Rehearsal) (ending : ScopeEnding) (r : Rehearsal) :
    StepResult × Rehearsal :=
  match r.host, r.coordinator with
  | none, _ => (.refused .noHost, r)
  | some _, none => (.refused .noCoordinator, r)
  | some host, some state =>
    let (o, l) := Life.scope (resources r.catalog true) r.options id
      (.ofRun fun host r =>
        let r := body { r with host := some host }
        (r.endScope ending, r))
      host ⟨state, { r with coordinator := none, host := none, served := none }⟩
    (.ofScope o, l.world)

/-! ## Steps -/

mutual

/-- What a step does, and what comes of it. -/
def perform : Step → Rehearsal → StepResult × Rehearsal
  | .init, r => onLife (fun res => Life.init res r.options) r
  | .close, r => onLife Life.close r
  | .open, r => onHost (fun res => Life.activate res r.options) r
  | .registerHandlers, r => onHost Life.registerHandlers r
  | .release, r =>
    match r.coordinator with
    | none => (.refused .noCoordinator, r)
    | some _ => (.aliases r.stage.world.aliases, { r with coordinator := none })
  | .scope body ending, r => scope (performAll body) ending r
  | .background, r =>
    withHost (fun host r =>
      match r.coordinator with
      | none => (.refused .noCoordinator, r)
      | some state => (.done, r.hand true state host)) r
  | .backgroundPlain, r => withHost (fun host r => (.done, r.hand false .unstarted host)) r
  | .settle, r => (.done, r.settle)
  | .aliases, r =>
    if r.backed.isEmpty then (.refused .noCoordinator, r)
    else (.aliases r.stage.world.aliases, r)
  | .startup, r => withHost (fun host r => ((startup host r).map .ofOutcome id)) r
  | .shutdown, r => withHost (fun host r => ((shutdown host r).map .ofOutcome id)) r
  | .serve, r => withHost serve r
  | .addHandler choice, r => withHost (fun host r => (.done, addHandlers choice host r)) r
  | .newHost, r => (.done, { r with host := some {}, served := none })
  | .renew options catalog script keep, r => (.done, r.renew options catalog script keep)
  | .request q, r => request q r
  | .require aliasName, r => withPool aliasName (fun pool r => (.pool pool, r)) r
  | .openAll c, r => openAll c r
  | .closeAll, r => closeAll r
  | .generate aliasName models safe, r => withPool aliasName (generate models safe) r
  | .bulkInsert aliasName users batchSize, r => withPool aliasName (bulkInsert users batchSize) r
  | .malformed m, r => (.mismatch m, r)
  | .unknown, r => (.refused .unknownStep, r)

/-- Performs steps one after another, with a snapshot after each. -/
def performAll : List Step → Rehearsal → Rehearsal
  | [], r => r
  | step :: rest, r =>
    let (result, r) := perform step r
    performAll rest (r.snapshot result)

end

end Rehearsal

end DbLifecycle
