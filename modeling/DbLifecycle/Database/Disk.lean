import DbLifecycle.Config.File
import DbLifecycle.Database.Opening
import DbLifecycle.Database.Table

/-!
# The working directory

The files below the directory a service runs in, and the databases it holds in memory.

* `Disk`: files by path, and databases in memory by name.
* `Disk.locate?`: the file a path leads to.
* `Disk.text?`: the text of a file.
* `Disk.openFile`, `Disk.openDatabase`: opens a file, or any database.
* `Disk.database`, `Disk.setDatabase`: the database at a place.
-/

namespace DbLifecycle

/-- What a file holds. -/
inductive FileContent where
  | text (s : String)
  | database (db : Database)
  deriving DecidableEq

/-- Where a database is: in memory under a name, or in a file. -/
inductive Place where
  | memory (name : String)
  | file (path : String)
  deriving DecidableEq, Repr

/-- The files of the working directory and the databases in memory. -/
structure Disk where
  files : Dict FileContent := {}
  memories : Dict Database := {}
  /-- The number the next database in memory gets that belongs to its pool alone. -/
  nextMemory : Nat := 0
  deriving DecidableEq

namespace Disk

/-- The directory of some texts by path. -/
def ofTexts (texts : List (String × String)) : Disk where
  files := .ofList (texts.map fun t => (tidyPath t.1, .text t.2))

/-! ## Paths -/

/-- Parts of a path put together. -/
def joinPath (parts : List String) : String := "/".intercalate parts

/-- Whether the parts lead to a directory: the working directory, or one that holds a file. -/
def isFolder (d : Disk) (parts : List String) : Bool :=
  parts.isEmpty || d.files.keys.any fun path =>
    decide (parts.length < (pathParts path).length) && (pathParts path).take parts.length == parts

/-- Follows the parts of a path; going up needs a directory to go up from. -/
def follow? (d : Disk) : List String → List String → Option (List String)
  | at_, [] => some at_
  | at_, part :: r =>
    if part = ".." then if at_.isEmpty ∨ !d.isFolder at_ then none else d.follow? at_.dropLast r
    else d.follow? (at_ ++ [part]) r

/-- The parts of the file or directory a relative path leads to. -/
def locate? (d : Disk) (path : String) : Option (List String) :=
  match path.toList with
  | '/' :: _ => none
  | _ => d.follow? [] (pathParts path)

/-- The beginning of every file that holds a database. -/
def databaseMark : String := "SQLite format 3\x00"

/-- Whether a path can lead to nothing but a directory, as its last part is empty or a point. -/
def asksFolder (path : String) : Bool :=
  match path.toList.splitOn '/' |>.getLast? with
  | some [] | some ['.'] => true
  | _ => false

/-- The text of the regular file at a path. -/
def text? (d : Disk) (path : String) : Option String :=
  if asksFolder path then none
  else
    (d.locate? path).bind fun parts =>
      (d.files.get? (joinPath parts)).map fun content =>
        match content with
        | .text s => s
        | .database _ => databaseMark

/-! ## Databases -/

/-- The number of bytes a name in a directory may have. -/
def longestName : Nat := 255

/-- Follows the parts of a database's path as they are written: going up takes back the last step,
be there such a directory or not. Nothing lies below a file. -/
def descend? (d : Disk) : List String → List String → Option (List String)
  | at_, [] => some at_
  | at_, part :: r =>
    if part = ".." then if at_.isEmpty then none else d.descend? at_.dropLast r
    else if d.files.contains (joinPath at_) ∨ longestName < part.utf8ByteSize then none
    else d.descend? (at_ ++ [part]) r

/-- The parts of the file that a database's relative path leads to. -/
def locateDatabase? (d : Disk) (path : String) : Option (List String) :=
  match path.toList with
  | '/' :: _ => none
  | _ => d.descend? [] (pathParts path)

/-- Opens a file as a database, creating it if that is asked for and its directory exists. To read
only, even a directory can be opened. -/
def openFile (d : Disk) (path : String) (access : Access) : Except SqliteFailure (Disk × Place) :=
  match d.locateDatabase? path with
  | none => .error .cannotOpen
  | some parts =>
    let file := joinPath parts
    if d.files.contains file then .ok (d, .file file)
    else if d.isFolder parts then
      if access = .read then .ok (d, .file file) else .error .cannotOpen
    else if access = .create ∧ d.isFolder parts.dropLast then
      .ok ({ d with files := d.files.insert file (.database .empty) }, .file file)
    else .error .cannotOpen

/-- The name of a database in memory that belongs to its pool alone. -/
def ownMemory (n : Nat) : String := "#" ++ toString n

/-- Opens a database, in memory under a name of its own if it is shared under none. -/
def openDatabase (d : Disk) (o : Opening) : Except SqliteFailure (Disk × Place) :=
  if o.isFile then d.openFile o.name o.access
  else
    match o.sharedName? with
    | some name => .ok (d, .memory name)
    | none => .ok ({ d with nextMemory := d.nextMemory + 1 }, .memory (ownMemory d.nextMemory))

/-- The database at a place. An empty file is an empty database, other text is none, and a directory
cannot be read. -/
def database (d : Disk) : Place → Except SqliteFailure Database
  | .memory name => .ok ((d.memories.get? name).getD .empty)
  | .file path =>
    match d.files.get? path with
    | some (.database db) => .ok db
    | some (.text s) => if s.isEmpty then .ok .empty else .error .notADatabase
    | none => if d.isFolder (pathParts path) then .error .unreadable else .ok .empty

/-- The directory with another database at a place. -/
def setDatabase (d : Disk) (place : Place) (db : Database) : Disk :=
  match place with
  | .memory name => { d with memories := d.memories.insert name db }
  | .file path => { d with files := d.files.insert path (.database db) }

/-- The directory without a database in memory. -/
def forget (d : Disk) : Place → Disk
  | .memory name => { d with memories := d.memories.erase name }
  | .file _ => d

end Disk

end DbLifecycle
