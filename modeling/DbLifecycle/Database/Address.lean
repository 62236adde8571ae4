import DbLifecycle.Database.Opening
import DbLifecycle.Text.Integer
import DbLifecycle.Url.Query

/-!
# Addresses of databases

A name that begins with `file:` is an address: the path of the file and, after a question mark,
options that change how it is opened.

* `Address.unescape`: the text of a part of an address.
* `Opening.set`: what one option changes.
* `Opening.followName`: the opening that a name asks for, be it an address or not.
-/

namespace DbLifecycle

namespace Address

/-- What follows the mark of an address. -/
def afterMark? (name : List Char) : Option (List Char) :=
  if "file:".toList.isPrefixOf name then some (name.drop 5) else none

/-- The text of a part of an address. It ends at an escaped zero. -/
def unescape (cs : List Char) : String :=
  Text.Utf8.lossy ((Percent.decodeBytes cs).takeWhile (· != 0))

/-- What follows the authority, which names nothing but this host. -/
def afterAuthority : List Char → Except SqliteFailure (List Char)
  | '/' :: '/' :: r =>
    let authority := r.takeWhile (· != '/')
    if authority.isEmpty ∨ authority = "localhost".toList then .ok (r.dropWhile (· != '/'))
    else .error (.foreignAddress (String.ofList authority))
  | cs => .ok cs

/-- The options in the query of an address. Those without a name count for nothing. -/
def options (query : List Char) : List (String × String) :=
  ((Url.Query.parts query).map fun p =>
    (unescape (Url.Query.sides p).1, unescape (Url.Query.sides p).2)).filter
    fun option => option.1 ≠ ""

/-- The largest number a flag can be given as. -/
def lastFlag : Nat := Text.Integer.maxUnsigned 31

/-- Whether the value of a flag sets it: one of three words, or a number that is not a multiple
of 256. -/
def isSet (value : String) : Bool :=
  let digits := value.toList.takeWhile Char.isDigit
  if digits.isEmpty then value.toLower ∈ ["on", "yes", "true"]
  else
    let n := Text.Integer.ofDigits digits
    decide (n ≤ lastFlag) && n % 256 != 0

end Address

namespace Opening

/-- Changes the access. More than was asked for before is refused for files. -/
def setAccess (o : Opening) (word : String) : Except SqliteFailure Opening :=
  if word = "memory" then .ok { o with inMemory := true, access := .write }
  else
    match Access.ofWord? word with
    | none => .error (.noMode "access" word)
    | some a =>
      if o.inMemory || a.rank ≤ o.access.rank then .ok { o with inMemory := false, access := a }
      else .error (.refusedAccess word)

/-- What an option of an address changes. -/
def set (o : Opening) (key value : String) : Except SqliteFailure Opening :=
  match key with
  | "vfs" => .ok { o with layer := value }
  | "cache" =>
    match value with
    | "shared" => .ok { o with shared := true }
    | "private" => .ok { o with shared := false }
    | _ => .error (.noMode "cache" value)
  | "mode" => o.setAccess value
  | _ => .ok o

/-- The opening that an address asks for, from what follows its mark. -/
def followAddress (o : Opening) (cs : List Char) : Except SqliteFailure Opening := do
  let rest ← Address.afterAuthority cs
  let rest := rest.takeWhile (· != '#')
  let options := Address.options ((rest.dropWhile (· != '?')).drop 1)
  let o := { o with
    name := Address.unescape (rest.takeWhile (· != '?'))
    addressed := true
    immutable := (options.lookup "immutable").any Address.isSet }
  options.foldlM (fun o option => o.set option.1 option.2) o

/-- The opening that the name asks for. -/
def followName (o : Opening) : Except SqliteFailure Opening :=
  match Address.afterMark? o.name.toList with
  | some cs => o.followAddress cs
  | none => .ok o

end Opening

end DbLifecycle
