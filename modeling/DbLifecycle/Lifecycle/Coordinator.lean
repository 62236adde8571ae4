import DbLifecycle.Config.File
import DbLifecycle.Host.Basic
import DbLifecycle.Lifecycle.Resources

/-!
# The life cycle of a service's database

A coordinator takes a service from `unstarted` over `initializing` to `ready`, and to `closed` when
its work is done. A failed start leaves it `unstarted` with nothing open.

* `Life`: the state of a coordinator and the world it works on.
* `Life.init`: reads and checks the configuration, opens all connections, creates missing tables.
* `Life.close`: closes all connections, once.
* `Life.registerHandlers`: registers the standard handlers with a host.
* `Life.activate`: starts, and registers the handlers if the options ask for it.
-/

namespace DbLifecycle

/-- The state of a coordinator, and the world it works on. -/
structure Life (σ : Type) where
  state : State := .unstarted
  world : σ

/-- The validated configuration of the only source that the options give. -/
def Options.load (files : Files) (o : Options) : Except ConfigError Config := do
  let source ← o.source
  source.load (Config.ofFile files)

namespace Life

variable {σ : Type}

/-! ## Starting -/

/-- Creates the missing tables of apps, one app after another, on their connections. -/
def generateEach (r : Resources σ) : List (String × App) → σ → Outcome Error Unit × σ
  | [], w => (.ok (), w)
  | (name, app) :: rest, w =>
    match r.require w app.connection with
    | .error e => (.error e, w)
    | .ok pool =>
      match r.generate pool name app.models w with
      | (.ok _, w) => generateEach r rest w
      | (stop, w) => (stop, w)

/-- Closes everything after tables could not be created; only a panic is told the caller. -/
def rollBack (r : Resources σ) (e : Error) (w : σ) : Outcome Error Unit × Life σ :=
  match r.closeAll w with
  | (.ok _, w) => (.error e, ⟨.unstarted, w⟩)
  | (.error closing, w) => (.error e, ⟨.unstarted, r.log (.rollbackFailed closing) w⟩)
  | (.panic text, w) => (.panic text, ⟨.initializing, w⟩)

/-- Creates missing tables if that is asked for, and is ready then. -/
def finishInit (r : Resources σ) (generate : Bool) (c : Config) (w : σ) :
    Outcome Error Unit × Life σ :=
  if generate then
    match generateEach r c.apps.entries (r.log .generating w) with
    | (.ok _, w) => (.ok (), ⟨.ready, w⟩)
    | (.error e, w) => rollBack r e w
    | (.panic text, w) => (.panic text, ⟨.initializing, w⟩)
  else (.ok (), ⟨.ready, w⟩)

/-- Opens the connections of a configuration and finishes. -/
def openConfig (r : Resources σ) (generate : Bool) (c : Config) (w : σ) :
    Outcome Error Unit × Life σ :=
  match r.openAll c w with
  | (.ok _, w) => finishInit r generate c (r.log (.started (r.aliases w) c.apps.keys) w)
  | (.error e, w) => (.error e, ⟨.unstarted, w⟩)
  | (.panic text, w) => (.panic text, ⟨.initializing, w⟩)

/-- Starts: reads and checks the configuration before anything is opened. -/
def init (r : Resources σ) (o : Options) (l : Life σ) : Outcome Error Unit × Life σ :=
  if l.state = .unstarted then
    match o.load (r.readFile l.world) with
    | .error e => (.error (.configuration e), l)
    | .ok c =>
      match r.validate c.apps with
      | .error e => (.error e, l)
      | .ok _ => openConfig r o.generateSchemas c l.world
  else (.error (.lifecycle .init l.state), l)

/-! ## Closing -/

/-- Closes all connections. The coordinator is closed even if closing fails. -/
def close (r : Resources σ) (l : Life σ) : Outcome Error Unit × Life σ :=
  if l.state = .ready then
    match r.closeAll l.world with
    | (.ok _, w) => (.ok (), ⟨.closed, r.log .shutDown w⟩)
    | (.error e, w) => (.error (.connection e), ⟨.closed, w⟩)
    | (.panic text, w) => (.panic text, ⟨.closed, w⟩)
  else (.error (.lifecycle .close l.state), l)

/-! ## Handlers -/

/-- Registers the standard handlers with a host and tells an observer about each of them. -/
def installHandlers (r : Resources σ) (host : Host) (w : σ) : Host × σ :=
  (host.addStandardHandlers, standardKinds.foldl (fun w k => r.log (.handlerRegistered k) w) w)

/-- Registers the standard handlers; the coordinator must be ready. -/
def registerHandlers (r : Resources σ) (host : Host) (l : Life σ) :
    Outcome Error Unit × Host × Life σ :=
  if l.state = .ready then
    let (host, w) := installHandlers r host l.world
    (.ok (), host, { l with world := r.log .handlersRegistered w })
  else (.error (.lifecycle .registerHandlers l.state), host, l)

/-- Starts, and registers the handlers if the options ask for it. -/
def activate (r : Resources σ) (o : Options) (host : Host) (l : Life σ) :
    Outcome Error Unit × Host × Life σ :=
  match init r o l with
  | (.ok _, l) => if o.addHandlers then registerHandlers r host l else (.ok (), host, l)
  | (stop, l) => (stop, host, l)

end Life

end DbLifecycle
