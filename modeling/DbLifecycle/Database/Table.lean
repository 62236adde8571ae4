import DbLifecycle.Database.Error
import DbLifecycle.Database.Schema
import DbLifecycle.User.Basic

/-!
# Tables

A database holds tables by name. The rows of a table are users; the table numbers them itself, and
never gives a number twice.

* `Table`: its description, its rows in the order of their ids, and the last id it gave.
* `Table.insert`, `Table.insertAll`, `Table.update`, `Table.delete`, `Table.find?`.
* `Database.createTable`: what a statement that creates a table does.
* `Database.users`, `Database.setUsers`: the table of the users.
-/

namespace DbLifecycle

/-- A table: the rows in the order of their ids, and the last id that was given. -/
structure Table where
  entity : Entity
  rows : List User := []
  lastId : Int := 0
  deriving DecidableEq, Repr

namespace Table

/-- Whether a row other than that of an id has a user name. -/
def isTaken (t : Table) (username : String) (except : Option Int) : Bool :=
  t.rows.any fun u => u.username = username ∧ some u.id ≠ except

/-- The failure of a user name that another row has. -/
def duplicate : SqliteFailure := .unique "users.username"

/-- Adds a row under the next id, unless its user name is taken. -/
def insert (t : Table) (u : UserInput) : Except SqliteFailure (Table × User) :=
  if t.isTaken u.username none then .error duplicate
  else
    let row := u.withId (t.lastId + 1)
    .ok ({ t with rows := t.rows ++ [row], lastId := t.lastId + 1 }, row)

/-- Adds rows one after another; if one of them fails, none is added. -/
def insertAll (t : Table) : List UserInput → Except SqliteFailure Table
  | [] => .ok t
  | u :: r =>
    match t.insert u with
    | .ok (t', _) => t'.insertAll r
    | .error e => .error e

/-- The row of an id. -/
def find? (t : Table) (id : Int) : Option User := t.rows.find? fun u => u.id = id

/-- Replaces the fields of the row of an id, unless another row has the user name. -/
def update (t : Table) (id : Int) (u : UserInput) : Except SqliteFailure Table :=
  if t.isTaken u.username (some id) then .error duplicate
  else .ok { t with rows := t.rows.map fun row => if row.id = id then u.withId id else row }

/-- Removes the row of an id. -/
def delete (t : Table) (id : Int) : Table :=
  { t with rows := t.rows.filter fun row => row.id ≠ id }

end Table

/-- Tables by name. -/
structure Database where
  tables : Dict Table := {}
  deriving DecidableEq

namespace Database

/-- The database without tables. -/
def empty : Database := {}

/-- Creates the table of an entity. A table of that name stays as it is, and is a failure unless the
statement is safe. -/
def createTable (db : Database) (safe : Bool) (e : Entity) : Except SqliteFailure Database :=
  if db.tables.contains e.name then if safe then .ok db else .error (.tableExists e.name)
  else .ok ⟨db.tables.insert e.name { entity := e }⟩

/-- The table of the users. -/
def users (db : Database) : Except SqliteFailure Table :=
  match db.tables.get? Entity.users.name with
  | some t => .ok t
  | none => .error (.noTable Entity.users.name)

/-- The database with another table of the users. -/
def setUsers (db : Database) (t : Table) : Database := ⟨db.tables.insert Entity.users.name t⟩

end Database

end DbLifecycle
