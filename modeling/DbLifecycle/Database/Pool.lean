import DbLifecycle.Connection.Spec
import DbLifecycle.Database.Disk

/-!
# Pools

* `PoolOptions`: the limits a pool is created with; `PoolOptions.ofUrl` keeps a database in memory
  on one connection.
* `Link`, `Pool`: what a pool leads to, and a pool that is open.
* `Pool.read`, `Pool.write`: queries and statements on an open pool.
-/

namespace DbLifecycle

/-! ## Options -/

/-- The limits of a pool; what is not set is left to the driver. Timeouts are in seconds. -/
structure PoolOptions where
  maxConnections : Option Nat := none
  minConnections : Option Nat := none
  idleTimeout : Option Nat := none
  maxLifetime : Option Nat := none
  acquireTimeout : Option Nat := none
  deriving DecidableEq, Repr

/-- How the URLs of databases in memory begin. -/
def memoryUrl : List Char := "sqlite::memory:".toList

/-- The seconds after which a connection is replaced. -/
def lifetime : Nat := 3600

/-- The limits of the pool of a URL. A database in memory lives as long as its connection, so its
pool has exactly one and keeps it. -/
def PoolOptions.ofUrl (url : String) (s : PoolSettings) : PoolOptions :=
  if memoryUrl.isPrefixOf url.toList then
    { maxConnections := some 1, minConnections := some 1, acquireTimeout := s.connectTimeout }
  else
    { maxConnections := s.maxConnections
      minConnections := s.minConnections
      idleTimeout := s.idleTimeout
      maxLifetime := some lifetime
      acquireTimeout := s.connectTimeout }

/-! ## Pools -/

/-- What a pool leads to: a database, whether it may be changed, and within which limits. -/
structure Link where
  place : Place
  writable : Bool
  options : PoolOptions
  /-- The dialect of the statements the database takes. -/
  dialect : Dialect := .sqlite
  deriving DecidableEq

/-- An open pool. -/
structure Pool extends Link where
  /-- Tells the pools of a run apart. -/
  id : Nat
  deriving DecidableEq

namespace Pool

/-- What a query finds in the table of the users. -/
def read {α : Type} (p : Pool) (query : Table → α) (d : Disk) : Except DbError α :=
  match d.database p.place with
  | .error f => .error (.query (.sqlite f))
  | .ok db =>
    match db.users with
    | .error f => .error (.query (.sqlite f))
    | .ok t => .ok (query t)

/-- Changes the table of the users, if the pool may write. -/
def write {α : Type} (p : Pool) (statement : Table → Except SqliteFailure (Table × α)) (d : Disk) :
    Except DbError (Disk × α) :=
  match d.database p.place with
  | .error f => .error (.execution (.sqlite f))
  | .ok db =>
    match db.users with
    | .error f => .error (.execution (.sqlite f))
    | .ok t =>
      if !p.writable then .error (.execution (.sqlite .readOnly))
      else
        match statement t with
        | .error f => .error (.execution (.sqlite f))
        | .ok (t, v) => .ok (d.setDatabase p.place (db.setUsers t), v)

end Pool

end DbLifecycle
