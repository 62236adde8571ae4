import DbLifecycle.Connection.Url
import DbLifecycle.Database.Pool
import DbLifecycle.Database.Server
import DbLifecycle.Database.Target
import DbLifecycle.Outcome

/-!
# Drivers

What reaches the databases themselves. A registry of connections works with any driver; its own
rules do not depend on what a driver answers.

* `Driver`: connects, creates tables, and closes.
* `Driver.openPool`: opens the database of a URL, within the limits for it.
* `Driver.standard`: the driver for databases in files and in memory. No server can be reached with
  it.
-/

namespace DbLifecycle

/-- What is asked of the databases themselves. -/
structure Driver where
  /-- Opens the database of a URL within some limits. -/
  connect : (url : String) → PoolOptions → Disk → Outcome DbError (Disk × Link)
  /-- Creates the table of an entity; a safe statement keeps a table that is already there. -/
  create : Link → (safe : Bool) → Entity → Disk → Except DbError Disk
  /-- Closes what a pool leads to. -/
  close : Link → Except DbError Unit

/-- Opens the database of a URL. -/
def Driver.openPool (driver : Driver) (url : String) (settings : PoolSettings) (d : Disk) :
    Outcome DbError (Disk × Link) :=
  driver.connect url (.ofUrl url settings) d

/-! ## Limits -/

/-- The number of seconds that clocks can count. -/
def lastSecond : Nat := Text.Integer.maxUnsigned 63

/-- What clocks show when a pool is made. They started to count when the machine did. -/
def clockReading : Nat := 100000

/-- Whether no pool can be made with the limits: its deadlines would lie beyond the end of time, or
it would have no room for a connection. -/
def PoolOptions.panics? (o : PoolOptions) : Option String :=
  if lastSecond < clockReading + o.acquireTimeout.getD 0 then
    some "overflow when adding duration to instant"
  else if o.maxConnections = some 0 then some "capacity must be non-zero"
  else none

/-! ## Opening -/

namespace Link

/-- Why no connection could be made in time. -/
def timedOut : DbError := .connection (.text "pool timed out while waiting for an open connection")

/-- Opens a file database. -/
def openTarget (options : PoolOptions) (t : Target) (d : Disk) : Outcome DbError (Disk × Link) :=
  match options.panics? with
  | some text => .panic text
  | none =>
    if options.acquireTimeout = some 0 then .error timedOut
    else
      match t.opening with
      | .error e => .error e
      | .ok o =>
        match d.openDatabase o with
        | .ok (d, place) => .ok (d, { place, writable := o.writable, options })
        | .error f => .error (.connection (.sqlite f))

/-- Tries to reach a server. None can be reached from here. -/
def openServer (options : PoolOptions) (o : ServerOptions) : Outcome DbError (Disk × Link) :=
  match options.panics? with
  | some text => .panic text
  | none =>
    if options.acquireTimeout = some 0 then .error timedOut
    else
      match o.failure? with
      | some fault => .error (.connection (.text fault.message))
      | none => .error timedOut

/-- The engine whose driver takes URLs of a scheme. -/
def engine? : String → Option Engine
  | "sqlite" => some .sqlite
  | "postgres" => some .postgres
  | "postgresql" => some .postgres
  | "mysql" => some .mySql
  | _ => none

/-- Why no engine is asked for a URL. -/
def notConnected {α : Type} (url why : String) : Outcome DbError α :=
  .error (.connection (.text ("The connection string '" ++ url ++ "' " ++ why)))

/-- Opens the database of a URL with the engine of its scheme. -/
def open? (url : String) (options : PoolOptions) (d : Disk) : Outcome DbError (Disk × Link) :=
  match Url.parse url with
  | .error _ => notConnected url "cannot be parsed."
  | .ok u =>
    match engine? (String.ofList u.scheme) with
    | none => notConnected url "has no supporting driver."
    | some .sqlite =>
      match Target.ofUrl url with
      | .error e => .error e
      | .ok t => openTarget options t d
    | some engine =>
      match ServerOptions.ofUrl engine u with
      | .error fault => .error (.connection (.text fault.message))
      | .ok o => openServer options o

/-- Creates the table of an entity. A safe statement about a table that is there writes nothing. -/
def createTable (l : Link) (safe : Bool) (e : Entity) (d : Disk) : Except DbError Disk :=
  match d.database l.place with
  | .error f => .error (.execution (.sqlite f))
  | .ok db =>
    match db.createTable safe e with
    | .error f => .error (.execution (.sqlite f))
    | .ok db' =>
      if db' = db then .ok d
      else if !l.writable then .error (.execution (.sqlite .readOnly))
      else .ok (d.setDatabase l.place db')

end Link

/-- The driver for databases in files and in memory. Closing always succeeds with it. -/
def Driver.standard : Driver where
  connect := Link.open?
  create := Link.createTable
  close _ := .ok ()

end DbLifecycle
