import DbLifecycle.Connection.Engine
import DbLifecycle.Config.Value
import DbLifecycle.Url.Basic

/-!
# Configuration errors

* `ConfigError`: the causes for which a configuration is refused.
* `ConfigError.message`: their wording.
-/

namespace DbLifecycle

/-- The parts of a URL that need a host. -/
inductive HostPart where
  | user
  | password
  | port
  deriving DecidableEq, Repr

/-- The word for a part. -/
def HostPart.word : HostPart → String
  | .user => "user"
  | .password => "password"
  | .port => "port"

/-- Why a configuration is refused. -/
inductive ConfigError where
  /-- A URL without a scheme. -/
  | noScheme (text : String)
  /-- A URL that cannot be read. -/
  | malformedUrl (cause : Url.ParseError)
  /-- A scheme that names no engine. -/
  | unknownScheme (scheme : String)
  /-- A file database without a file. -/
  | missingFilePath
  /-- A name of no engine. -/
  | unknownEngine (name : String)
  /-- A descriptor of a file database without a file. -/
  | filePathRequired
  /-- A host that gives no URL. -/
  | invalidHost (host : String) (cause : Url.ParseError)
  /-- A user, password or port without a host. -/
  | invalidPart (part : HostPart) (engine : Engine)
  /-- A port that is no number below 65536. -/
  | invalidPort (text : String)
  | noConnections
  | noApps
  /-- An app on a connection that is not configured. -/
  | unknownConnection (app aliasName : String)
  /-- An app with a model location that the catalog does not know. -/
  | unknownModule (app location : String)
  | noSource
  | severalSources
  | urlWithoutModules
  | modulesWithoutUrl
  | fileNotFound (path : String)
  /-- A file in a format that cannot be read. -/
  | unsupportedFormat (path : String)
  /-- A file whose text breaks its format. -/
  | unreadable (path : String)
  /-- A value of a file that does not fit. -/
  | value (cause : Value.Error)
  /-- A cause known by its text only. -/
  | text (message : String)
  deriving DecidableEq, Repr

/-- The wording of a cause. -/
def ConfigError.message : ConfigError → String
  | .noScheme url => "Malformed db_url: " ++ url
  | .malformedUrl cause => "Malformed db_url: " ++ cause.message
  | .unknownScheme scheme => "Unknown DB scheme: " ++ scheme
  | .missingFilePath => "SQLite db_url is missing a file path"
  | .unknownEngine name => "Unknown database engine: " ++ name
  | .filePathRequired => "SQLite connection requires credentials.file_path"
  | .invalidHost host cause => "Invalid host " ++ host ++ ": " ++ cause.message
  | .invalidPart part engine => "Invalid " ++ part.word ++ " for " ++ engine.scheme
  | .invalidPort port => "Invalid port: " ++ port
  | .noConnections => "Config must define at least one connection"
  | .noApps => "Config must define at least one app"
  | .unknownConnection app aliasName =>
    "App \"" ++ app ++ "\" refers to unknown connection \"" ++ aliasName ++ "\""
  | .unknownModule app location =>
    "Module \"" ++ location ++ "\" of app \"" ++ app ++ "\" not found"
  | .noSource => "You must specify one of 'config', 'config_file' or 'db_url' + 'modules'"
  | .severalSources =>
    "Only one of 'config', 'config_file' or 'db_url' + 'modules' may be specified"
  | .urlWithoutModules => "You must specify 'modules' together with 'db_url'"
  | .modulesWithoutUrl => "You must specify 'db_url' together with 'modules'"
  | .fileNotFound path => "Unable to find config file: " ++ path
  | .unsupportedFormat path =>
    "configuration file \"" ++ path ++ "\" is not of a supported file format"
  | .unreadable path => "configuration file \"" ++ path ++ "\" cannot be read"
  | .value cause => cause.message
  | .text m => m

end DbLifecycle
