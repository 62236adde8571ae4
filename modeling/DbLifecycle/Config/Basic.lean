import DbLifecycle.Connection.Url
import DbLifecycle.Dict
import DbLifecycle.Error

/-!
# Configurations

Connections by alias, and apps by name: each app lists the locations of its models and lives on one
connection.

* `Config`: connections and apps.
* `Config.validate`: what a usable configuration needs.
* `Config.ofUrl`: one connection for all apps.
* `Config.decode`: reads a configuration.
-/

namespace DbLifecycle

/-- The alias of the connection that is used where none is named. -/
def defaultAlias : String := "default"

/-- The models of an app and the connection it lives on. -/
structure App where
  models : List String
  connection : String := defaultAlias
  deriving DecidableEq, Repr

/-- Connections and apps. -/
structure Config where
  connections : Dict ConnectionSpec
  apps : Dict App
  deriving DecidableEq

namespace Config

/-- Checks that there are connections and apps, that every connection has a URL, in the order of
their aliases, and that every app's connection exists, in the order of their names. -/
def validate (c : Config) : Except ConfigError Unit := do
  if c.connections.isEmpty then .error .noConnections
  if c.apps.isEmpty then .error .noApps
  c.connections.values.forM fun spec => do let _ ← spec.toUrl
  c.apps.entries.forM fun (name, app) =>
    if c.connections.contains app.connection then .ok ()
    else .error (.unknownConnection name app.connection)

/-- The configuration of one URL under the default alias and the models of each app. -/
def ofUrl (url : String) (modules : Dict (List String)) : Config where
  connections := .singleton defaultAlias (.url url)
  apps := modules.map fun _ models => { models }

/-! ## Reading -/

open Json

/-- An app from an object or an array; the connection may be left out. -/
def decodeApp (v : Json) : Except Mismatch App := do
  match ← asFields "AppConfig" v with
  | .named ms =>
    let connection ← given? "default_connection" asText ms
    let models ← given? "models" (asList asText) ms
    let models ← required "models" models
    .ok ⟨models, connection.getD defaultAlias⟩
  | .listed items =>
    let models ← listed "AppConfig" 2 0 (asList asText) none items
    let connection ← listed "AppConfig" 2 1 asText (some defaultAlias) items
    noneLeft 2 items
    .ok ⟨models, connection⟩

/-- A dictionary of values of one type. -/
def decodeDict {α : Type} (item : Json → Except Mismatch α) (v : Json) :
    Except Mismatch (Dict α) :=
  (asMembers item v).map Dict.ofList

/-- A configuration from an object or an array of its two parts. -/
def decode (v : Json) : Except Mismatch Config := do
  match ← asFields "OrmConfig" v with
  | .named ms =>
    let apps ← given? "apps" (decodeDict decodeApp) ms
    let connections ← given? "connections" (decodeDict ConnectionSpec.decode) ms
    let connections ← required "connections" connections
    let apps ← required "apps" apps
    .ok ⟨connections, apps⟩
  | .listed items =>
    let connections ← listed "OrmConfig" 2 0 (decodeDict ConnectionSpec.decode) none items
    let apps ← listed "OrmConfig" 2 1 (decodeDict decodeApp) none items
    noneLeft 2 items
    .ok ⟨connections, apps⟩

end Config

end DbLifecycle
