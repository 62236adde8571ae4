/-!
# Database errors

* `SqliteFailure`: the failures of a statement or of opening a file, with code and text.
* `Constraint`, `DbCause`: what the engines report; a driver knows which constraints are violated.
* `DbError`: what a database operation can return instead of a result.
* `DbError.message`, `DbError.causes`: its text, and the texts of the errors beneath it.
* `DbError.isConstraint`: whether it reports a unique or foreign key.
-/

namespace DbLifecycle

/-- A failure that the database engine reports. -/
inductive SqliteFailure where
  | unique (column : String)
  | primaryKey (column : String)
  | foreignKey
  | notNull (column : String)
  | check (condition : String)
  | noTable (name : String)
  | tableExists (name : String)
  | tooManyValues
  | readOnly
  | cannotOpen
  | notADatabase
  | unreadable
  | noLayer (name : String)
  | foreignAddress (authority : String)
  | noMode (kind word : String)
  | refusedAccess (word : String)
  deriving DecidableEq, Repr

/-- How the text of an engine's failure is reported. -/
def reportText (text : String) : String := "error returned from database: " ++ text

namespace SqliteFailure

/-- The extended result code. -/
def code : SqliteFailure → Nat
  | .unique _ => 2067
  | .primaryKey _ => 1555
  | .foreignKey => 787
  | .notNull _ => 1299
  | .check _ => 275
  | .noTable _ => 1
  | .tableExists _ => 1
  | .tooManyValues => 1
  | .readOnly => 8
  | .cannotOpen => 14
  | .notADatabase => 26
  | .unreadable => 266
  | .noLayer _ => 1
  | .foreignAddress _ => 1
  | .noMode _ _ => 1
  | .refusedAccess _ => 3

/-- The engine's text. -/
def message : SqliteFailure → String
  | .unique column => "UNIQUE constraint failed: " ++ column
  | .primaryKey column => "UNIQUE constraint failed: " ++ column
  | .foreignKey => "FOREIGN KEY constraint failed"
  | .notNull column => "NOT NULL constraint failed: " ++ column
  | .check condition => "CHECK constraint failed: " ++ condition
  | .noTable name => "no such table: " ++ name
  | .tableExists name => "table \"" ++ name ++ "\" already exists"
  | .tooManyValues => "too many SQL variables"
  | .readOnly => "attempt to write a readonly database"
  | .cannotOpen => "unable to open database file"
  | .notADatabase => "file is not a database"
  | .unreadable => "disk I/O error"
  | .noLayer name => "no such vfs: " ++ name
  | .foreignAddress authority => "invalid uri authority: " ++ authority
  | .noMode kind word => "no such " ++ kind ++ " mode: " ++ word
  | .refusedAccess word => "access mode not allowed: " ++ word

/-- Code and text. -/
def coded (f : SqliteFailure) : String := "(code: " ++ toString f.code ++ ") " ++ f.message

/-- The failure as the driver reports it. -/
def reported (f : SqliteFailure) : String := reportText f.coded

end SqliteFailure

/-- The constraints that drivers tell apart. -/
inductive Constraint where
  | unique
  | foreignKey
  deriving DecidableEq, Repr

/-- What lies beneath a failed connection, statement or query. -/
inductive DbCause where
  | text (message : String)
  | sqlite (failure : SqliteFailure)
  /-- Anything else that an engine reports, with the constraint that it violates as its driver
  understands it. -/
  | engine (text : String) (violated : Option Constraint)
  /-- A column of a row that is no value of the type asked for. -/
  | undecodable (column reason : String)
  deriving DecidableEq, Repr

namespace DbCause

/-- How a column that cannot be read is reported. -/
def columnText (column reason : String) : String :=
  "error occurred while decoding column \"" ++ column ++ "\": " ++ reason

/-- The text of a cause. -/
def message : DbCause → String
  | .text m => m
  | .sqlite f => f.reported
  | .engine t _ => reportText t
  | .undecodable column reason => columnText column reason

/-- The texts of the errors beneath: what the driver reports comes through two layers. -/
def causes : DbCause → List String
  | .text m => [m]
  | .sqlite f => [f.reported, f.reported, f.coded]
  | .engine t _ => [reportText t, reportText t, t]
  | .undecodable column reason => [columnText column reason, columnText column reason, reason]

/-- Whether the engine reports a key that is not unique or refers to nothing. -/
def isConstraint : DbCause → Bool
  | .sqlite (.unique _) => true
  | .sqlite (.primaryKey _) => true
  | .sqlite .foreignKey => true
  | .engine _ violated => violated.isSome
  | _ => false

end DbCause

/-- An error of a database operation. -/
inductive DbError where
  | recordNotFound (text : String)
  | custom (text : String)
  | type (text : String)
  | json (text : String)
  | migration (text : String)
  | attributeNotSet (text : String)
  /-- A value of one type that does not fit another. -/
  | conversion (source target cause : String)
  /-- A type of keys that no number can be turned into. -/
  | notFromNumber (type : String)
  | nothingInserted
  | nothingUpdated
  | noInsertId
  | noPrimaryKey
  | connection (cause : DbCause)
  | execution (cause : DbCause)
  | query (cause : DbCause)
  | acquireTimeout
  | acquireClosed
  deriving DecidableEq, Repr

namespace DbError

/-- Why no connection could be taken from a pool. -/
def acquireText : Bool → String
  | true => "Connection pool timed out"
  | false => "Connection closed"

/-- The text of an error. -/
def message : DbError → String
  | .recordNotFound t => "RecordNotFound Error: " ++ t
  | .custom t => "Custom Error: " ++ t
  | .type t => "Type Error: " ++ t
  | .json t => "Json Error: " ++ t
  | .migration t => "Migration Error: " ++ t
  | .attributeNotSet t => "Attribute " ++ t ++ " is NotSet"
  | .conversion source target cause =>
    "Error converting `" ++ source ++ "` into `" ++ target ++ "`: " ++ cause
  | .notFromNumber t => "Type '" ++ t ++ "' cannot be converted from u64"
  | .nothingInserted => "None of the records are inserted"
  | .nothingUpdated => "None of the records are updated"
  | .noInsertId => "Failed to unpack last_insert_id"
  | .noPrimaryKey => "Failed to get primary key from model"
  | .connection cause => "Connection Error: " ++ cause.message
  | .execution cause => "Execution Error: " ++ cause.message
  | .query cause => "Query Error: " ++ cause.message
  | .acquireTimeout => "Failed to acquire connection from pool: " ++ acquireText true
  | .acquireClosed => "Failed to acquire connection from pool: " ++ acquireText false

/-- The texts of the errors beneath an error, from the outside in. -/
def causes : DbError → List String
  | .connection cause => cause.causes
  | .execution cause => cause.causes
  | .query cause => cause.causes
  | .conversion _ _ cause => [cause]
  | .acquireTimeout => [acquireText true]
  | .acquireClosed => [acquireText false]
  | _ => []

/-- Whether a statement or query failed on a unique or foreign key. -/
def isConstraint : DbError → Bool
  | .execution cause => cause.isConstraint
  | .query cause => cause.isConstraint
  | _ => false

end DbError

end DbLifecycle
