import DbLifecycle.Config.Basic

/-!
# Options

What a service is started with: where its configuration comes from, and two switches.

* `Options`: the configuration inline, in a file, or as one URL with modules; and the switches.
* `Source`: the one place a configuration comes from.
* `Options.source`: exactly one source must be given.
* `Source.load`: the validated configuration of a source.
-/

namespace DbLifecycle

/-- What a service is started with. -/
structure Options where
  config : Option Config := none
  configFile : Option String := none
  url : Option String := none
  modules : Option (Dict (List String)) := none
  /-- Create missing tables after connecting. -/
  generateSchemas : Bool := false
  /-- Register the handlers that turn errors into responses. -/
  addHandlers : Bool := false
  deriving DecidableEq

/-- The one place a configuration comes from. -/
inductive Source where
  | inline (config : Config)
  | file (path : String)
  | urlModules (url : String) (modules : Dict (List String))
  deriving DecidableEq

/-- The only source that is given; a URL counts only together with modules. -/
def Options.source (o : Options) : Except ConfigError Source :=
  match o.config, o.configFile, o.url, o.modules with
  | some config, none, none, none => .ok (.inline config)
  | none, some path, none, none => .ok (.file path)
  | none, none, some url, some modules => .ok (.urlModules url modules)
  | none, none, some _, none => .error .urlWithoutModules
  | none, none, none, some _ => .error .modulesWithoutUrl
  | none, none, none, none => .error .noSource
  | _, _, _, _ => .error .severalSources

/-- The configuration of a source, validated; `readFile` reads the configuration of a file. -/
def Source.load (readFile : String → Except ConfigError Config) (s : Source) :
    Except ConfigError Config := do
  let config ← match s with
    | .inline config => .ok config
    | .file path => readFile path
    | .urlModules url modules => .ok (Config.ofUrl url modules)
  config.validate
  .ok config

end DbLifecycle
