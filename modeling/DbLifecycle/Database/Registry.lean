import DbLifecycle.Config.Basic
import DbLifecycle.Database.Driver
import DbLifecycle.Event

/-!
# The registry of connections

Open pools by alias, together with the working directory their databases live in and the events so
far. Opening is all or nothing: when a pool cannot be opened, those opened before it are closed.

* `World`: working directory, open pools, and events.
* `World.openAll`: opens the connections of a configuration, in the order of their aliases.
* `World.place`: puts a pool under an alias, in place of the one that was there.
* `World.closeAliases`, `World.closeAll`: closing. Pools leave the registry even if closing fails.
* `World.require`: the pool of an alias.
-/

namespace DbLifecycle

/-- The working directory, the open pools by alias, and what happened so far. -/
structure World where
  disk : Disk := {}
  pools : Dict Pool := {}
  /-- The number the next pool gets. -/
  nextPool : Nat := 0
  /-- The pools that closing was asked of, in order. -/
  retired : List Nat := []
  events : List Event := []
  deriving DecidableEq

namespace World

/-- Tells an observer. -/
def log (e : Event) (w : World) : World := { w with events := w.events ++ [e] }

/-- The aliases of open pools, in order. -/
def aliases (w : World) : List String := w.pools.keys

/-- The open pool of an alias. -/
def require (w : World) (aliasName : String) : Except Error Pool :=
  match w.pools.get? aliasName with
  | some pool => .ok pool
  | none => .error (.unknownConnection aliasName)

/-! ## Closing -/

/-- Whether an open pool reaches a place. -/
def isReached (w : World) (place : Place) : Bool := w.pools.values.any fun p => p.place = place

/-- Gives up a pool that is under no alias any more. A database in memory is gone with its last
pool. -/
def drop (w : World) (pool : Pool) : World :=
  if w.isReached pool.place then w else { w with disk := w.disk.forget pool.place }

variable (driver : Driver)

/-- Closes a pool that was under an alias, and is told how that went. -/
def closePool (w : World) (aliasName : String) (pool : Pool) : Except DbError Unit × World :=
  let w := { w.drop pool with retired := w.retired ++ [pool.id] }
  match driver.close pool.toLink with
  | .ok _ => (.ok (), w.log (.closed aliasName pool.id))
  | .error e => (.error e, w)

/-- Closes the pools of those aliases that are open, and lists how that went. -/
def closeEach (w : World) : List String → List (Except DbError Unit) × World
  | [] => ([], w)
  | aliasName :: r =>
    match w.pools.get? aliasName with
    | none => w.closeEach r
    | some pool =>
      let (report, w) :=
        { w with pools := w.pools.erase aliasName }.closePool driver aliasName pool
      let (reports, w) := w.closeEach r
      (report :: reports, w)

/-- The first error in a list of reports, and the number of reports behind it. -/
def firstError? : List (Except DbError Unit) → Option (DbError × Nat)
  | [] => none
  | .ok _ :: r => firstError? r
  | .error e :: r => some (e, r.length)

/-- Closes the pools of some aliases together; the first error is that of all. -/
def closeAliases (w : World) (aliases : List String) : Outcome DbError Unit × World :=
  let (reports, w) := w.closeEach driver aliases
  match firstError? reports with
  | none => (.ok (), w)
  | some (e, behind) => (.error e, w.log (.cancelling behind))

/-- Closes all pools. -/
def closeAll (w : World) : Outcome DbError Unit × World := w.closeAliases driver w.aliases

/-! ## Opening -/

/-- A connection to be opened. -/
structure Request where
  aliasName : String
  url : String
  settings : PoolSettings
  deriving DecidableEq, Repr

/-- What a configuration asks to open; all URLs are made before anything is opened. -/
def requests (c : Config) : Except ConfigError (List Request) :=
  c.connections.entries.mapM fun (aliasName, spec) =>
    spec.toUrl.map fun url => ⟨aliasName, url, spec.pool⟩

/-- Puts a new pool under an alias. A pool that was open under it before is given up, but not
closed. -/
def place (w : World) (aliasName : String) (link : Link) : World :=
  let old := w.pools.get? aliasName
  let pool : Pool := { link with id := w.nextPool }
  let w := { w with pools := w.pools.insert aliasName pool, nextPool := w.nextPool + 1 }
  (old.elim w w.drop).log (.opened aliasName pool.id)

/-- Closes what was opened before a connection failed. An error of closing is only told an
observer. -/
def undo (w : World) (done : List String) : World :=
  match w.closeAliases driver done with
  | (.error e, w) => w.log (.undoFailed e)
  | (_, w) => w

/-- Opens connections one after another. When one fails, those in `done` are closed. -/
def openEach (w : World) (done : List String) : List Request → Outcome Error Unit × World
  | [] => (.ok (), w)
  | q :: r =>
    match driver.openPool q.url q.settings w.disk with
    | .ok (disk, link) =>
      ({ w with disk }.place q.aliasName link).openEach (done ++ [q.aliasName]) r
    | .error e =>
      (.error (.connection e), (w.log (.openFailed q.aliasName e)).undo driver done)
    | .panic text => (.panic text, w)

/-- Opens the connections of a configuration. -/
def openAll (w : World) (c : Config) : Outcome Error Unit × World :=
  match requests c with
  | .error e => (.error (.configuration e), w)
  | .ok qs => w.openEach driver [] qs

end World

end DbLifecycle
