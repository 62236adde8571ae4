import DbLifecycle.Database.Address
import DbLifecycle.Text.Quoted

/-!
# Targets

What the URL of a file database opens.

* `Target`: the name of the database and what the parameters of the URL ask for.
* `Target.ofUrl`: the target of a URL.
* `Target.opening`: how the engine is asked to open it.
-/

namespace DbLifecycle

/-- What the URL of a file database opens. A database without a name belongs to its pool alone. -/
structure Target where
  name : String := ""
  inMemory : Bool := false
  shared : Bool := false
  readOnly : Bool := false
  create : Bool := false
  immutable : Bool := false
  layer : Option String := none
  deriving DecidableEq, Repr

namespace Target

/-! ## URLs -/

/-- Drops a text at the front as often as it is there. -/
def dropAll (word : List Char) : Nat → List Char → List Char
  | 0, cs => cs
  | fuel + 1, cs =>
    if word.isPrefixOf cs then dropAll word fuel (cs.drop word.length) else cs

/-- Why a URL is refused. -/
def refuse {α : Type} (text : String) : Except DbError α :=
  .error (.connection (.text ("error with configuration: " ++ text)))

/-- What a parameter asks for. -/
def apply (t : Target) (key value : String) : Except DbError Target :=
  let unknown := refuse ("unknown value " ++ Text.quoted value ++ " for `" ++ key ++ "`")
  match key with
  | "mode" =>
    match value with
    | "ro" => .ok { t with readOnly := true }
    | "rw" => .ok t
    | "rwc" => .ok { t with create := true }
    | "memory" => .ok { t with inMemory := true, shared := true }
    | _ => unknown
  | "cache" =>
    match value with
    | "private" => .ok { t with shared := false }
    | "shared" => .ok { t with shared := true }
    | _ => unknown
  | "immutable" =>
    if value ∈ ["true", "1"] then .ok { t with immutable := true }
    else if value ∈ ["false", "0"] then .ok { t with immutable := false }
    else unknown
  | "vfs" => .ok { t with layer := some value }
  | _ => refuse ("unknown query parameter `" ++ key ++ "` while parsing connection URL")

/-- What the URL of a file database opens: the part before the first question mark names the
database, the parameters after it say how. -/
def ofUrl (url : String) : Except DbError Target := do
  let cs := url.toList
  let cs := dropAll "sqlite://".toList cs.length cs
  let cs := dropAll "sqlite:".toList cs.length cs
  let name := cs.takeWhile (· != '?')
  let target ←
    if name = ":memory:".toList then .ok { inMemory := true, shared := true }
    else
      match Percent.decode name with
      | .ok file => .ok { name := file }
      | .error fault => refuse fault.message
  (Url.Query.pairs ((cs.dropWhile (· != '?')).drop 1)).foldlM (fun t p => t.apply p.1 p.2) target

/-! ## Openings -/

/-- What may be done with the file. Not to write outweighs to create. -/
def access (t : Target) : Access :=
  if t.readOnly then .read else if t.create then .create else .write

/-- Whether the name is passed on in an address, as some of what is asked for can only be said
there. -/
def needsAddress (t : Target) : Bool := t.immutable || t.layer.isSome

/-- A text up to its first zero. -/
def upToZero (s : String) : String := String.ofList (s.toList.takeWhile (· != '\x00'))

/-- The name of a layer as an address passes it on: blanks are written as plus signs, and nothing
reads them back. -/
def passedLayer (s : String) : String :=
  String.ofList ((upToZero s).toList.map fun c => if c = ' ' then '+' else c)

/-- How the engine is asked to open the database. In an address every character of the name stands
for itself; without one, the name may be an address of its own. -/
def opening (t : Target) : Except DbError Opening :=
  let failed : Except SqliteFailure Opening → Except DbError Opening :=
    Except.mapError fun f => .connection (.sqlite f)
  let o : Opening :=
    { name := t.name, access := t.access, inMemory := t.inMemory, shared := t.shared }
  if t.needsAddress then
    failed { o with
      name := upToZero t.name
      addressed := true
      immutable := t.immutable
      layer := (t.layer.map passedLayer).getD o.layer }.checkLayer
  else if t.name.toList.contains '\x00' then
    .error (.connection (.text
      "error communicating with database: filename passed to SQLite must not contain nul bytes"))
  else failed (o.followName.bind Opening.checkLayer)

end Target

end DbLifecycle
