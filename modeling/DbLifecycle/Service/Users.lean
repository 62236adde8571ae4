import DbLifecycle.Database.Registry
import DbLifecycle.Host.Basic

/-!
# The users of the service

What the service does with users, on the pool of the default alias. Input is checked first, so that
what is refused for itself is refused whether or not a pool is open.

The ids of users have 32 bits. A table goes on to longer ones, which the service cannot tell.

* `Users.InRange`: the ids of users; `Users.decoded`, `Users.numbered`: rows and new rows as users.
* `Users.list`, `Users.create`, `Users.get`, `Users.update`, `Users.delete`: the five operations.
-/

namespace DbLifecycle

namespace Users

/-- A result or a failure, and the world after it. -/
abbrev Result (α : Type) := Except Failure α × World

/-- Bounds are checked before anything else. -/
def checked {α : Type} (check : Except Invalid Unit) (next : World → Result α) (w : World) :
    Result α :=
  match check with
  | .ok _ => next w
  | .error e => (.error (.ofInvalid e), w)

/-- Works on the pool of the default alias. -/
def withPool {α : Type} (next : Pool → World → Result α) (w : World) : Result α :=
  match w.require defaultAlias with
  | .ok pool => next pool w
  | .error e => (.error (.ofError e), w)

/-- The text for a user that is not there. -/
def missingText (id : Int) : String := "User " ++ toString id ++ " not found"

/-- The row of an id, which must be there. The id is that of a user. -/
def find (id : Int) (pool : Pool) (w : World) : Result User :=
  match pool.read (·.find? id) w.disk with
  | .ok (some u) => (.ok u, w)
  | .ok none => (.error (.ofError (.notFound (missingText id))), w)
  | .error e => (.error (.ofDbError e), w)

/-- Changes the table of the users. -/
def change {α : Type} (statement : Table → Except SqliteFailure (Table × α)) (pool : Pool)
    (w : World) : Result α :=
  match pool.write statement w.disk with
  | .ok (disk, v) => (.ok v, { w with disk })
  | .error e => (.error (.ofDbError e), w)

/-! ## Ids -/

/-- The ids of users have 32 bits. -/
def InRange (id : Int) : Prop :=
  Text.Integer.minSigned 32 ≤ id ∧ id ≤ Text.Integer.maxSigned 32

instance (id : Int) : Decidable (InRange id) := by unfold InRange; infer_instance

/-- Why a row with a longer id is no user. -/
def undecodable : DbError :=
  .query (.undecodable "id" "out of range integral type conversion attempted")

/-- Rows as users, if all of them are. -/
def decoded (rows : List User) : Except DbError (List User) :=
  if ∀ v ∈ rows, InRange v.id then .ok rows else .error undecodable

/-- A new row as a user. If it is none, it stays in the table all the same. -/
def numbered : Result User → Result User
  | (.ok v, w) => if InRange v.id then (.ok v, w) else (.error (.ofDbError .noInsertId), w)
  | (.error e, w) => (.error e, w)

/-! ## Operations -/

/-- All users, in the order of their ids. -/
def list (w : World) : Result (List User) :=
  withPool (fun pool w =>
    match (pool.read (·.rows) w.disk).bind decoded with
    | .ok us => (.ok us, w)
    | .error e => (.error (.ofDbError e), w)) w

/-- Adds a user. -/
def create (u : UserInput) (w : World) : Result User :=
  numbered (checked u.validate (withPool (change (·.insert u))) w)

/-- The user of an id. -/
def get (id : Int) (w : World) : Result User :=
  checked (validateId id) (withPool (find id)) w

/-- Replaces the fields of the user of an id. -/
def update (id : Int) (u : UserInput) (w : World) : Result User :=
  checked (validateId id) (checked u.validate (withPool fun pool w =>
    match find id pool w with
    | (.ok _, w) => change (fun t => (t.update id u).map fun t => (t, u.withId id)) pool w
    | (.error e, w) => (.error e, w))) w

/-- Removes the user of an id, and says whether there was one. -/
def delete (id : Int) (w : World) : Result Bool :=
  checked (validateId id) (withPool (change fun t =>
    .ok (t.delete id, (t.find? id).isSome))) w

end Users

end DbLifecycle
