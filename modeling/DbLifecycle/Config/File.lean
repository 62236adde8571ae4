import DbLifecycle.Config.Convert
import DbLifecycle.Json.Parser
import DbLifecycle.Toml.Parser
import DbLifecycle.Yaml.Document

/-!
# Configuration files

* `Format`: the formats a file name can ask for.
* `Files`: how the texts of files are found.
* `Format.entries?`: the keys of a text and their values.
* `Config.ofFile`: the configuration of a file.
* `layerOf`: the entries of the first file that exists for a name without an ending.
-/

namespace DbLifecycle

/-- A format of configuration files. -/
inductive Format where
  | toml
  | json
  | yaml
  deriving DecidableEq, Repr

/-- The text of the regular file at a path, if there is one. -/
abbrev Files := String → Option String

/-! ## Names -/

/-- The parts of a path that lead somewhere. -/
def pathParts (path : String) : List String :=
  ((path.toList.splitOn '/').map String.ofList).filter fun p => p ≠ "" ∧ p ≠ "."

/-- The ending of a file name: what follows its last point, unless the point begins the name. -/
def extension? (path : String) : Option String :=
  let name := ((pathParts path).getLastD "").toList
  match name.splitOn '.' with
  | [] => none
  | [_] => none
  | [[], _] => none
  | parts => some (String.ofList (parts.getLastD []))

/-- The format a file name asks for. -/
def Format.ofPath? (path : String) : Option Format :=
  match extension? path with
  | some "toml" => some .toml
  | some "json" => some .json
  | some "yaml" => some .yaml
  | some "yml" => some .yaml
  | _ => none

/-- A path without the parts that lead nowhere. -/
def tidyPath (path : String) : String := "/".intercalate (pathParts path)

/-! ## Texts -/

namespace Value

/-- A number as a configuration value keeps it. -/
def Scalar.ofNumber : Json.Number → Scalar
  | .int n => .int n
  | .float x => .float x

mutual

/-- A JSON value that was written at a place. -/
def ofJson (origin : Origin) : Json → Value
  | .null => .scalar (some origin) .null
  | .bool b => .scalar (some origin) (.bool b)
  | .num n => .scalar (some origin) (.ofNumber n)
  | .str s => .scalar (some origin) (.text s)
  | .arr items => .list (some origin) (ofJsonItems origin items)
  | .obj members => .table (some origin) (ofJsonMembers origin members)

/-- The items of an array that was written at a place. -/
def ofJsonItems (origin : Origin) : List Json → List Value
  | [] => []
  | v :: r => ofJson origin v :: ofJsonItems origin r

/-- The members of an object that was written at a place. -/
def ofJsonMembers (origin : Origin) : List (String × Json) → List (String × Value)
  | [] => []
  | (k, v) :: r => (k, ofJson origin v) :: ofJsonMembers origin r

end

end Value

/-- A text without the mark of its byte order. -/
def withoutMark (text : String) : String :=
  match text.toList with
  | c :: r => if c.toNat = 0xfeff then String.ofList r else text
  | [] => text

/-- The entries of an object. -/
def objectEntries? (origin : Value.Origin) : Json → Option Value.Layer
  | .obj members => some (Value.ofJsonMembers origin members)
  | _ => none

/-- The keys of a text in a format and their values. Text that holds no table has none, but an empty
text is an empty table where the format allows it. -/
def Format.entries? (format : Format) (origin : Value.Origin) (text : String) :
    Option Value.Layer :=
  let text := withoutMark text
  match format with
  | .json => (Json.parse? text).bind (objectEntries? origin)
  | .toml => (Toml.parse? text).map (Toml.memberValues origin)
  | .yaml =>
    match Yaml.parse? text with
    | none => none
    | some none => some []
    | some (some v) => objectEntries? origin v

/-! ## Files -/

/-- The entries of a file that exists. -/
def fileEntries (path text : String) : Except ConfigError Value.Layer :=
  match Format.ofPath? path with
  | none => .error (.unsupportedFormat path)
  | some format =>
    match format.entries? (.file (tidyPath path)) text with
    | some entries => .ok entries
    | none => .error (.unreadable path)

/-- The configuration of a file. -/
def Config.ofFile (files : Files) (path : String) : Except ConfigError Config := do
  let text ← match files path with
    | some text => .ok text
    | none => .error (.fileNotFound path)
  let entries ← fileEntries path text
  match (Value.merge entries (.table none [])).asConfig with
  | .ok config => .ok config
  | .error e => .error (.value e)

/-- The endings of file names, in the order in which they are tried. -/
def endings : List String := [".toml", ".json", ".yaml", ".yml"]

/-- The paths that a name without an ending can stand for: none if it names no file. -/
def candidates (name : String) : List String :=
  match (pathParts name).getLast? with
  | none => []
  | some last => if last = ".." then [] else endings.map (tidyPath name ++ ·)

/-- The entries that a name without an ending gives: those of the file of just that name, or of the
first that exists with an ending. No file, or one of no known format, gives none. -/
def layerOf (files : Files) (name : String) : Except ConfigError Value.Layer :=
  let exact := String.ofList (name.toList.reverse.dropWhile (· == '/')).reverse
  match files exact with
  | some text =>
    match Format.ofPath? exact with
    | none => .ok []
    | some _ => fileEntries exact text
  | none =>
    match (candidates name).findSome? fun path => (files path).map fun text => (path, text) with
    | some (path, text) => fileEntries path text
    | none => .ok []

end DbLifecycle
