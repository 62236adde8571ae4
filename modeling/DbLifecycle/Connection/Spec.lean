import DbLifecycle.Json.Decode

/-!
# Connections

A connection is given as a URL or as a descriptor of its parts.

* `ConnectionSpec`: a URL or a descriptor.
* `Descriptor`, `Credentials`, `Port`: the parts of a connection.
* `PoolSettings`: limits and timeouts of its pool.
* `ConnectionSpec.decode`: reads a connection; whatever does not fit gives one and the same
  mismatch.
-/

namespace DbLifecycle

/-- A port as it was written: a number or a text. -/
inductive Port where
  | number (n : Nat)
  | text (s : String)
  deriving DecidableEq, Repr

/-- Where and as whom to connect; `filePath` is for databases in files. -/
structure Credentials where
  host : Option String := none
  port : Option Port := none
  user : Option String := none
  password : Option String := none
  database : Option String := none
  filePath : Option String := none
  deriving DecidableEq, Repr, Inhabited

/-- Limits of a pool; timeouts are in seconds. -/
structure PoolSettings where
  maxConnections : Option Nat := none
  minConnections : Option Nat := none
  connectTimeout : Option Nat := none
  idleTimeout : Option Nat := none
  deriving DecidableEq, Repr, Inhabited

/-- A connection described by its parts. -/
structure Descriptor where
  engine : String
  credentials : Credentials := {}
  pool : PoolSettings := {}
  deriving DecidableEq, Repr

/-- A connection: a URL or a descriptor. -/
inductive ConnectionSpec where
  | url (text : String)
  | descriptor (d : Descriptor)
  deriving DecidableEq, Repr

namespace ConnectionSpec

/-- The pool settings of a connection; a URL has none. -/
def pool : ConnectionSpec → PoolSettings
  | .url _ => {}
  | .descriptor d => d.pool

end ConnectionSpec

/-! ## Reading -/

open Json

/-- A port number below 65536, or a text. -/
def Port.decode (v : Json) : Except Mismatch Port :=
  match asUnsigned 16 v with
  | .ok n => .ok (.number n)
  | .error _ =>
    match v with
    | .str s => .ok (.text s)
    | _ => .error (.noAlternative "Port")

/-- Credentials from an object; every field may be missing. -/
def Credentials.ofMembers (ms : List (String × Json)) : Except Mismatch Credentials := do
  let database ← given? "database" (asOption asText) ms
  let filePath ← given? "file_path" (asOption asText) ms
  let host ← given? "host" (asOption asText) ms
  let password ← given? "password" (asOption asText) ms
  let port ← given? "port" (asOption Port.decode) ms
  let user ← given? "user" (asOption asText) ms
  .ok ⟨host.join, port.join, user.join, password.join, database.join, filePath.join⟩

/-- Credentials from an array of all six fields. -/
def Credentials.ofItems (items : List Json) : Except Mismatch Credentials := do
  let host ← listed "Credentials" 6 0 (asOption asText) none items
  let port ← listed "Credentials" 6 1 (asOption Port.decode) none items
  let user ← listed "Credentials" 6 2 (asOption asText) none items
  let password ← listed "Credentials" 6 3 (asOption asText) none items
  let database ← listed "Credentials" 6 4 (asOption asText) none items
  let filePath ← listed "Credentials" 6 5 (asOption asText) none items
  noneLeft 6 items
  .ok ⟨host, port, user, password, database, filePath⟩

/-- Credentials from an object or an array. -/
def Credentials.decode (v : Json) : Except Mismatch Credentials := do
  match ← asFields "Credentials" v with
  | .named ms => ofMembers ms
  | .listed items => ofItems items

/-- A descriptor from an object; only the engine must be there. -/
def Descriptor.ofMembers (ms : List (String × Json)) : Except Mismatch Descriptor := do
  let connectTimeout ← given? "connect_timeout" (asOption (asUnsigned 64)) ms
  let credentials ← given? "credentials" Credentials.decode ms
  let engine ← given? "engine" asText ms
  let idleTimeout ← given? "idle_timeout" (asOption (asUnsigned 64)) ms
  let maxConnections ← given? "max_connections" (asOption (asUnsigned 32)) ms
  let minConnections ← given? "min_connections" (asOption (asUnsigned 32)) ms
  let engine ← required "engine" engine
  .ok ⟨engine, credentials.getD {},
    ⟨maxConnections.join, minConnections.join, connectTimeout.join, idleTimeout.join⟩⟩

/-- A descriptor from an array of all six fields. -/
def Descriptor.ofItems (items : List Json) : Except Mismatch Descriptor := do
  let engine ← listed "ConnectionDescriptor" 6 0 asText none items
  let credentials ← listed "ConnectionDescriptor" 6 1 Credentials.decode (some {}) items
  let maxConnections ← listed "ConnectionDescriptor" 6 2 (asOption (asUnsigned 32)) none items
  let minConnections ← listed "ConnectionDescriptor" 6 3 (asOption (asUnsigned 32)) none items
  let connectTimeout ← listed "ConnectionDescriptor" 6 4 (asOption (asUnsigned 64)) none items
  let idleTimeout ← listed "ConnectionDescriptor" 6 5 (asOption (asUnsigned 64)) none items
  noneLeft 6 items
  .ok ⟨engine, credentials, ⟨maxConnections, minConnections, connectTimeout, idleTimeout⟩⟩

/-- A descriptor from an object or an array. -/
def Descriptor.decode (v : Json) : Except Mismatch Descriptor := do
  match ← asFields "ConnectionDescriptor" v with
  | .named ms => ofMembers ms
  | .listed items => ofItems items

/-- A text is a URL, all else must be a descriptor. -/
def ConnectionSpec.decode (v : Json) : Except Mismatch ConnectionSpec :=
  match v with
  | .str s => .ok (.url s)
  | v =>
    match Descriptor.decode v with
    | .ok d => .ok (.descriptor d)
    | .error _ => .error (.noAlternative "ConnectionSpec")

end DbLifecycle
