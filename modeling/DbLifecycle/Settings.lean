import DbLifecycle.Config.File
import DbLifecycle.Config.Options

/-!
# Settings of the service

Four layers, each laid over the ones before it: defaults, the file `config/default`, the file of the
environment's name, and the environment itself.

* `Settings`: where to listen, and how to use the database.
* `OrmSettings.toOptions`: a configuration file wins over a URL.
* `Settings.layers`, `Settings.load`: the layers and what they amount to.
-/

namespace DbLifecycle

/-- Where the service listens. -/
structure ServerSettings where
  host : String
  port : Nat
  deriving DecidableEq, Repr

/-- How the service uses its database. -/
structure OrmSettings where
  url : Option String
  configFile : Option String
  models : List String
  generateSchemas : Bool
  addHandlers : Bool
  deriving DecidableEq, Repr

/-- The settings of the service. -/
structure Settings where
  server : ServerSettings
  orm : OrmSettings
  deriving DecidableEq, Repr

/-- The app that the models of the settings belong to. -/
def modelsApp : String := "models"

/-- The options the settings stand for. The URL has a default, so a configuration file wins. -/
def OrmSettings.toOptions (s : OrmSettings) : Options :=
  let switches : Options := { generateSchemas := s.generateSchemas, addHandlers := s.addHandlers }
  match s.configFile, s.url with
  | some path, _ => { switches with configFile := some path }
  | none, some url =>
    { switches with url := some url, modules := some (.singleton modelsApp s.models) }
  | none, none => switches

/-! ## Reading from JSON -/

open Json in
/-- Settings of the database from an object or an array; the models may be left out. -/
def OrmSettings.decode (v : Json) : Except Mismatch OrmSettings := do
  match ← Json.asFields "OrmSettings" v with
  | .named ms =>
    let addHandlers ← given? "add_exception_handlers" asBool ms
    let configFile ← given? "config_file" (asOption asText) ms
    let url ← given? "db_url" (asOption asText) ms
    let generateSchemas ← given? "generate_schemas" asBool ms
    let models ← given? "models" (asList asText) ms
    let generateSchemas ← required "generate_schemas" generateSchemas
    let addHandlers ← required "add_exception_handlers" addHandlers
    .ok ⟨url.join, configFile.join, models.getD [], generateSchemas, addHandlers⟩
  | .listed items =>
    let url ← listed "OrmSettings" 5 0 (asOption asText) none items
    let configFile ← listed "OrmSettings" 5 1 (asOption asText) none items
    let models ← listed "OrmSettings" 5 2 (asList asText) (some []) items
    let generateSchemas ← listed "OrmSettings" 5 3 asBool none items
    let addHandlers ← listed "OrmSettings" 5 4 asBool none items
    noneLeft 5 items
    .ok ⟨url, configFile, models, generateSchemas, addHandlers⟩

/-! ## Reading from values -/

namespace Value

/-- Where to listen, from a table or a list. -/
def asServer (v : Value) : Reading ServerSettings := do
  match ← asFields "ServerSettings" v with
  | .named ms =>
    let host ← given? "host" asText ms
    let port ← given? "port" asNat16 ms
    let host ← required "host" host
    let port ← required "port" port
    .ok ⟨host, port⟩
  | .listed vs =>
    let host ← listed "ServerSettings" 2 0 asText none vs
    let port ← listed "ServerSettings" 2 1 asNat16 none vs
    .ok ⟨host, port⟩

/-- How to use the database, from a table or a list. -/
def asOrm (v : Value) : Reading OrmSettings := do
  match ← asFields "OrmSettings" v with
  | .named ms =>
    let url ← given? "db_url" (asOption asText) ms
    let configFile ← given? "config_file" (asOption asText) ms
    let models ← given? "models" (asList asText) ms
    let generateSchemas ← given? "generate_schemas" asBool ms
    let addHandlers ← given? "add_exception_handlers" asBool ms
    let generateSchemas ← required "generate_schemas" generateSchemas
    let addHandlers ← required "add_exception_handlers" addHandlers
    .ok ⟨url.join, configFile.join, models.getD [], generateSchemas, addHandlers⟩
  | .listed vs =>
    let url ← listed "OrmSettings" 5 0 (asOption asText) none vs
    let configFile ← listed "OrmSettings" 5 1 (asOption asText) none vs
    let models ← listed "OrmSettings" 5 2 (asList asText) (some []) vs
    let generateSchemas ← listed "OrmSettings" 5 3 asBool none vs
    let addHandlers ← listed "OrmSettings" 5 4 asBool none vs
    .ok ⟨url, configFile, models, generateSchemas, addHandlers⟩

/-- The settings from a table. -/
def asSettings (v : Value) : Reading Settings := do
  let server ← given? "server" asServer v.members
  let orm ← given? "orm" asOrm v.members
  let server ← required "server" server
  let orm ← required "orm" orm
  .ok ⟨server, orm⟩

end Value

/-! ## Layers -/

namespace Settings

/-- The values that hold where no layer sets another one. -/
def defaults : Value.Layer :=
  [("server.host", .scalar none (.text "0.0.0.0")),
   ("server.port", .scalar none (.int 3000)),
   ("orm.db_url", .scalar none (.text "sqlite://:memory:")),
   ("orm.models", .list none [.scalar none (.text "models")]),
   ("orm.generate_schemas", .scalar none (.bool true)),
   ("orm.add_exception_handlers", .scalar none (.bool true))]

/-- What the names of variables that count begin with. -/
def namePrefix : List Char := "orm_lifespan__".toList

/-- Two underscores in a row stand for a point. -/
def pointed : List Char → List Char
  | '_' :: '_' :: r => '.' :: pointed r
  | c :: r => c :: pointed r
  | [] => []

/-- The key a variable sets, if its name counts. Case does not matter. -/
def variableKey? (name : String) : Option String :=
  let cs := (Text.lowered name).toList
  if namePrefix.isPrefixOf cs then some (String.ofList (pointed (cs.drop namePrefix.length)))
  else none

/-- The entries of the environment. -/
def environmentLayer (env : Dict String) : Value.Layer :=
  env.entries.filterMap fun (name, value) =>
    (variableKey? name).map fun key => (key, .scalar (some .environment) (.text value))

/-- The name of the environment the service runs in. -/
def environmentName (env : Dict String) : String := (env.get? "APP_ENVIRONMENT").getD "default"

/-- The four layers, the weakest first. -/
def layers (files : Files) (env : Dict String) : Except ConfigError (List Value.Layer) := do
  let shared ← layerOf files "config/default"
  let own ← layerOf files ("config/" ++ environmentName env)
  .ok [defaults, shared, own, environmentLayer env]

/-- Layers laid over one another. -/
def combine (ls : List Value.Layer) : Value :=
  ls.foldl (fun v l => Value.merge l v) (.table none [])

/-- The settings of files and an environment. -/
def load (files : Files) (env : Dict String) : Except ConfigError Settings := do
  let ls ← layers files env
  match (combine ls).asSettings with
  | .ok s => .ok s
  | .error e => .error (.value e)

end Settings

end DbLifecycle
