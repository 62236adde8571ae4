import DbLifecycle.Batch
import DbLifecycle.Database.Registry

/-!
# Inserting many users

* `maxValues`: a statement cannot hold more values.
* `Columns`: the columns that statements give values for.
* `World.bulkInsert`: inserts users in batches; each batch is one statement, and the batches before
  a failing one stay.
-/

namespace DbLifecycle

/-- How many values a statement may have. -/
def maxValues : Nat := 32766

/-- The columns besides the user name that statements give values for. The table gives the ids. -/
structure Columns where
  name : Bool := true
  familyName : Bool := true
  deriving DecidableEq, Repr

namespace Columns

/-- The values of a row. -/
def width (c : Columns) : Nat := 1 + c.name.toNat + c.familyName.toNat

/-- What is given for a user; without a value a column stays empty. -/
def given (c : Columns) (u : UserInput) : UserInput where
  username := u.username
  name := if c.name then u.name else none
  familyName := if c.familyName then u.familyName else none

end Columns

namespace World

/-- Inserts batches one after another and counts the rows; an empty batch needs no statement. -/
def insertEach (w : World) (pool : Pool) (columns : Columns) (count : Nat) :
    List (List UserInput) → Except DbError Nat × World
  | [] => (.ok count, w)
  | [] :: r => w.insertEach pool columns count r
  | batch :: r =>
    if maxValues < columns.width * batch.length then
      (.error (.execution (.sqlite .tooManyValues)), w)
    else
      match pool.write (fun t => (t.insertAll (batch.map columns.given)).map fun t => (t, ()))
        w.disk with
      | .ok (disk, _) => insertEach { w with disk } pool columns (count + batch.length) r
      | .error e => (.error e, w)

/-- Inserts users in batches of a size and counts the rows. -/
def bulkInsert (w : World) (pool : Pool) (users : List UserInput) (batchSize : Option Nat)
    (columns : Columns := {}) : Except DbError Nat × World :=
  w.insertEach pool columns 0 (Batches.ofList users batchSize).toList

end World

end DbLifecycle
