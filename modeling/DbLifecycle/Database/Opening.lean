import DbLifecycle.Database.Error

/-!
# Openings

How the engine of file databases is asked to open one.

* `Access`: what may be done with the file.
* `Opening`: name and manner of opening a database.
* `Opening.writable`: whether the open database can be changed.
* `Opening.sharedName?`: the name under which others find a database in memory.
-/

namespace DbLifecycle

/-- What may be done with the file of a database. -/
inductive Access where
  | read
  | write
  | create
  deriving DecidableEq, Repr

namespace Access

/-- The access a word asks for. -/
def ofWord? : String → Option Access
  | "ro" => some .read
  | "rw" => some .write
  | "rwc" => some .create
  | _ => none

/-- Each access allows more than the one before it. -/
def rank : Access → Nat
  | .read => 0
  | .write => 1
  | .create => 2

end Access

/-- How the engine is asked to open a database. -/
structure Opening where
  /-- The path of a file, or the name of a database in memory. A database without a name is reached
  by nobody else. -/
  name : String
  access : Access
  inMemory : Bool := false
  /-- Whether a database in memory may be shared. -/
  shared : Bool := false
  /-- Whether the name was given as an address. Only such names can be shared. -/
  addressed : Bool := false
  /-- Whether the file is taken to change never. -/
  immutable : Bool := false
  /-- The layer that stores the bytes. -/
  layer : String := "unix"
  deriving DecidableEq, Repr

namespace Opening

/-- The layer that stores bytes in memory. -/
def memoryLayer : String := "memdb"

/-- The layers there are. -/
def layers : List String := ["unix", "unix-none", "unix-dotfile", "unix-excl", memoryLayer]

/-- Fails where the layer is not one of those there are. -/
def checkLayer (o : Opening) : Except SqliteFailure Opening :=
  if o.layer ∈ layers then .ok o else .error (.noLayer o.layer)

/-- Whether the engine itself keeps the database in memory. -/
def isMemory (o : Opening) : Bool := o.name.isEmpty || o.inMemory || o.name == ":memory:"

/-- Whether the database can be changed. That a file never changes means nothing in memory. -/
def writable (o : Opening) : Bool := o.access != .read && (o.isMemory || !o.immutable)

/-- Whether the database is a file. -/
def isFile (o : Opening) : Bool := !o.isMemory && o.layer != memoryLayer

/-- The name under which others find a database in memory while it is open. In the memory layer,
names after a slash are for all. -/
def sharedName? (o : Opening) : Option String :=
  if o.name.isEmpty then none
  else if o.isMemory then
    if o.addressed && o.shared then some (o.layer ++ ":" ++ o.name) else none
  else if o.shared || ("/".toList.isPrefixOf o.name.toList && 1 < o.name.length) then
    some (o.layer ++ "/" ++ o.name)
  else none

end Opening

end DbLifecycle
