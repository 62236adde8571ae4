/-!
# Database engines

* `Engine`: the engines a connection can name.
* `Engine.ofName?`: several names for each engine, in any case, after any dotted path.
* `Engine.scheme`: the scheme of its URLs.
-/

namespace DbLifecycle

/-- A database engine. -/
inductive Engine where
  | sqlite
  | postgres
  | mySql
  deriving DecidableEq, Repr

namespace Engine

/-- The last part of a dotted name, in lower case. -/
def shortName (name : String) : String :=
  String.ofList (((name.toList.splitOn '.').getLastD []).map Char.toLower)

/-- The engine a name stands for. -/
def ofName? (name : String) : Option Engine :=
  match shortName name with
  | "sqlite" => some .sqlite
  | "sqlite3" => some .sqlite
  | "postgres" => some .postgres
  | "postgresql" => some .postgres
  | "asyncpg" => some .postgres
  | "psycopg" => some .postgres
  | "mysql" => some .mySql
  | "asyncmy" => some .mySql
  | _ => none

/-- The scheme of the engine's URLs, which is also its name. -/
def scheme : Engine → String
  | .sqlite => "sqlite"
  | .postgres => "postgres"
  | .mySql => "mysql"

end Engine

end DbLifecycle
