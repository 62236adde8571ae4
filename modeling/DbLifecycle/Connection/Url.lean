import DbLifecycle.Config.Error
import DbLifecycle.Connection.Spec
import DbLifecycle.Text.Integer
import DbLifecycle.Url.Update

/-!
# Connection URLs

Every connection has one URL that a driver can open. URLs of file databases get the mode that
creates a missing file; URLs of servers stay as they were written.

* `normalizeUrl`: the form in which a written URL is used.
* `Descriptor.toUrl`: the URL of a descriptor.
* `ConnectionSpec.toUrl`: the URL of a connection.
-/

namespace DbLifecycle

/-! ## Written URLs -/

/-- Drops all pairs of slashes at the front. -/
def dropSlashPairs : List Char → List Char
  | '/' :: '/' :: r => dropSlashPairs r
  | cs => cs

/-- The URL of a file database from what follows the scheme: in memory, with a query of its own, or
in the mode that creates the file. -/
def fileUrl (rest : List Char) : Except ConfigError String :=
  let path := dropSlashPairs rest
  if path = ":memory:".toList then .ok "sqlite::memory:"
  else if path.isEmpty then .error .missingFilePath
  else if path.contains '?' then .ok ("sqlite://" ++ String.ofList path)
  else .ok ("sqlite://" ++ String.ofList path ++ "?mode=rwc")

/-- The form in which a written URL is used. -/
def normalizeUrl (text : String) : Except ConfigError String :=
  let scheme := text.toList.takeWhile (· != ':')
  match text.toList.dropWhile (· != ':') with
  | [] => .error (.noScheme text)
  | _ :: rest =>
    match Engine.ofName? (String.ofList scheme) with
    | some .sqlite => fileUrl rest
    | some _ =>
      match Url.parse text with
      | .ok _ => .ok text
      | .error e => .error (.malformedUrl e)
    | none => .error (.unknownScheme (String.ofList scheme))

/-! ## Descriptors -/

/-- The number of a port. A text may have blanks around it and a plus sign. -/
def Port.number? : Port → Except ConfigError Nat
  | .number n => .ok n
  | .text s =>
    match Text.Integer.unsigned? 65535 (Text.trim s.toList) with
    | some n => .ok n
    | none => .error (.invalidPort s)

/-- Applies a change to a URL, if there is a value for it. -/
def setPart {α : Type} (set : α → Url → Except ConfigError Url) : Option α → Url →
    Except ConfigError Url
  | none, u => .ok u
  | some v, u => set v u

/-- Fails where there is no host. -/
def needHost (part : HostPart) (engine : Engine) : Option Url → Except ConfigError Url
  | some u => .ok u
  | none => .error (.invalidPart part engine)

/-- The URL of a server: host, then user, password, port and database. -/
def Credentials.serverUrl (engine : Engine) (c : Credentials) : Except ConfigError Url := do
  let host := c.host.getD "localhost"
  let base ← match Url.parse (engine.scheme ++ "://" ++ host) with
    | .ok u => .ok u
    | .error e => .error (.invalidHost host e)
  let u ← setPart (fun s u => needHost .user engine (u.setUsername? s.toList)) c.user base
  let u ← setPart (fun s u => needHost .password engine (u.setPassword? s.toList)) c.password u
  let u ← setPart (fun (p : Port) u => do
    let n ← p.number?
    needHost .port engine (u.setPort? n)) c.port u
  setPart (fun s u => .ok (u.setPath s.toList)) c.database u

/-- The URL of a descriptor. -/
def Descriptor.toUrl (d : Descriptor) : Except ConfigError String :=
  match Engine.ofName? d.engine with
  | none => .error (.unknownEngine (Engine.shortName d.engine))
  | some .sqlite =>
    match d.credentials.filePath with
    | none => .error .filePathRequired
    | some path => normalizeUrl ("sqlite://" ++ path)
  | some engine => (d.credentials.serverUrl engine).map Url.text

/-- The URL of a connection. -/
def ConnectionSpec.toUrl : ConnectionSpec → Except ConfigError String
  | .url text => normalizeUrl text
  | .descriptor d => d.toUrl

end DbLifecycle
