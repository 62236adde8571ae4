import DbLifecycle.Config.Basic
import DbLifecycle.Text.Quoted

/-!
# Schemas

An entity describes a table: a key that the database numbers, and text columns. A catalog says which
entities live at which location; an app lists locations.

* `Entity`, `Column`: the description of a table.
* `Dialect`, `Entity.createStatement`: the statement that creates the table.
* `Catalog`: locations and their entities, `Catalog.addLocation` and `Catalog.register` to build it.
* `Catalog.entities`, `Catalog.schema`: the entities and statements of a list of locations.
* `Catalog.validate`: every location of every app must be known.
-/

namespace DbLifecycle

/-- A column of texts. -/
structure Column where
  name : String
  required : Bool := false
  unique : Bool := false
  deriving DecidableEq, Repr

/-- A table: its name, its numbered key, and the columns after the key. -/
structure Entity where
  name : String
  key : String
  columns : List Column
  deriving DecidableEq, Repr

/-- The table of the users. -/
def Entity.users : Entity where
  name := "users"
  key := "id"
  columns := [{ name := "username", required := true, unique := true }, { name := "name" },
    { name := "family_name" }]

/-! ## Statements -/

/-- The dialects of the statements. -/
inductive Dialect where
  | sqlite
  | postgres
  | mySql
  deriving DecidableEq, Repr

namespace Dialect

/-- The mark around names. -/
def quote : Dialect → String
  | .mySql => "`"
  | _ => "\""

/-- The type and the properties of a numbered key. -/
def keyType : Dialect → String
  | .sqlite => "integer NOT NULL PRIMARY KEY AUTOINCREMENT"
  | .postgres => "serial NOT NULL PRIMARY KEY"
  | .mySql => "int NOT NULL AUTO_INCREMENT PRIMARY KEY"

/-- The type of a text column. -/
def textType : Dialect → String
  | .mySql => "varchar(255)"
  | _ => "varchar"

/-- A name between marks. -/
def quoted (d : Dialect) (name : String) : String := d.quote ++ name ++ d.quote

end Dialect

/-- The definition of a column. -/
def Column.definition (d : Dialect) (c : Column) : String :=
  d.quoted c.name ++ " " ++ d.textType ++ (if c.required then " NOT NULL" else "") ++
    (if c.unique then " UNIQUE" else "")

/-- The definitions of all columns of a table, the key first. -/
def Entity.definitions (d : Dialect) (e : Entity) : List String :=
  (d.quoted e.key ++ " " ++ d.keyType) :: e.columns.map (Column.definition d)

/-- The statement that creates a table; a safe one keeps a table that is already there. -/
def Entity.createStatement (d : Dialect) (safe : Bool) (e : Entity) : String :=
  "CREATE TABLE " ++ (if safe then "IF NOT EXISTS " else "") ++ d.quoted e.name ++ " ( " ++
    ", ".intercalate (e.definitions d) ++ " );"

/-! ## Catalogs -/

/-- Locations of models, and the entities at each of them in the order of their registration. -/
structure Catalog where
  modules : Dict (List Entity)
  deriving DecidableEq

namespace Catalog

/-- The catalog without locations. -/
def empty : Catalog := ⟨{}⟩

/-- Makes a location known. -/
def addLocation (c : Catalog) (location : String) : Catalog :=
  ⟨c.modules.insert location ((c.modules.get? location).getD [])⟩

/-- Registers an entity at a location. -/
def register (c : Catalog) (location : String) (e : Entity) : Catalog :=
  ⟨c.modules.insert location ((c.modules.get? location).getD [] ++ [e])⟩

/-- The catalog of the service: the users, at the location `models`. -/
def standard : Catalog := empty.register "models" .users

/-- Whether a location is known. -/
def contains (c : Catalog) (location : String) : Bool := c.modules.contains location

/-- The entities at a list of locations; locations that are not known have none. -/
def entities (c : Catalog) (models : List String) : List Entity :=
  models.flatMap fun location => (c.modules.get? location).getD []

/-- The statements that create the tables of a list of locations. -/
def statements (c : Catalog) (d : Dialect) (models : List String) (safe : Bool) : List String :=
  (c.entities models).map (Entity.createStatement d safe)

/-- The statements, one on each line. -/
def schema (c : Catalog) (d : Dialect) (models : List String) (safe : Bool) : String :=
  "\n".intercalate (c.statements d models safe)

/-- Checks that every location of every app is known, in the order of the apps' names. -/
def validate (c : Catalog) (apps : Dict App) : Except ConfigError Unit :=
  apps.entries.forM fun (name, app) =>
    match app.models.find? fun location => !c.contains location with
    | some location => .error (.unknownModule name location)
    | none => .ok ()

/-- Locations and the number of their entities, as a reader of logs sees them. -/
def summary (c : Catalog) : String :=
  "\x7b" ++ ", ".intercalate (c.modules.entries.map fun (location, es) =>
    Text.quoted location ++ ": " ++ toString es.length) ++ "\x7d"

end Catalog

end DbLifecycle
