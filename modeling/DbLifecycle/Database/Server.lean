import DbLifecycle.Connection.Engine
import DbLifecycle.Database.Charset
import DbLifecycle.Text.Integer
import DbLifecycle.Text.Quoted
import DbLifecycle.Url.Address
import DbLifecycle.Url.Basic
import DbLifecycle.Url.Query

/-!
# Server URLs

What the URL of a database server asks of a connection. No server can be reached from here, so a
URL is only checked.

* `ServerFault`: why no connection is tried, or why it fails at once.
* `ServerOptions`: what matters of a URL before a server answers.
* `ServerOptions.ofUrl`: reads names and options of a URL, the first fault deciding.
* `ServerOptions.failure?`: why a connection fails at once.
-/

namespace DbLifecycle

/-! ## Faults -/

/-- Why no connection is tried, or why it fails at once. -/
inductive ServerFault where
  | text (fault : Text.Utf8.Fault)
  | number (fault : Text.Integer.Fault)
  | tlsMode (word : String)
  | address
  | charset (name : String)
  | collation (name : String)
  | noSocket
  deriving DecidableEq, Repr

/-- How the faults of a configuration begin. -/
def ServerFault.lead : String := "error with configuration: "

/-- The wording of a fault. A mode that is not known is a fault within a fault. -/
def ServerFault.message : ServerFault → String
  | .text fault => lead ++ fault.message
  | .number fault => lead ++ fault.message
  | .tlsMode word => lead ++ lead ++ "unknown value " ++ Text.quoted word ++ " for `ssl_mode`"
  | .address => lead ++ "invalid IP address syntax"
  | .charset name => lead ++ "unsupported MySQL charset: " ++ name
  | .collation name => lead ++ "unsupported MySQL collation: " ++ name
  | .noSocket => "error communicating with database: No such file or directory (os error 2)"

/-! ## Options -/

/-- What matters of the URL of a server before the server answers. -/
structure ServerOptions where
  /-- Whether the server is looked for in a directory. -/
  socket : Bool := false
  charset : String := "utf8mb4"
  collation : Option String := none
  deriving DecidableEq, Repr

namespace ServerOptions

/-- The number of prepared statements that can be counted. -/
def lastCapacity : Nat := Text.Integer.maxUnsigned 64

/-- The last port. -/
def lastPort : Nat := 65535

/-- The words for how far a connection is encrypted. -/
def tlsModes : Engine → List String
  | .postgres => ["disable", "allow", "prefer", "require", "verify-ca", "verify-full"]
  | .mySql => ["disabled", "preferred", "required", "verify_ca", "verify_identity"]
  | .sqlite => []

/-- Reads the escapes of a part of a URL. -/
def checkText (cs : List Char) : Except ServerFault Unit :=
  match Percent.decode cs with
  | .ok _ => .ok ()
  | .error fault => .error (.text fault)

/-- Reads a number of at most `max`. -/
def checkNumber (max : Nat) (value : String) : Except ServerFault Unit :=
  match Text.Integer.read max value.toList with
  | .ok _ => .ok ()
  | .error fault => .error (.number fault)

/-- Whether a text is the address of a host. -/
def isAddress (value : String) : Bool :=
  (Url.Address.dotted? value.toList).isSome || (Url.Address.parse? value.toList).isSome

/-- What an option of either engine asks for. -/
def setCommon (engine : Engine) (o : ServerOptions) (key value : String) :
    Except ServerFault ServerOptions :=
  if key = "sslmode" ∨ key = "ssl-mode" then
    if value.toLower ∈ tlsModes engine then .ok o else .error (.tlsMode value)
  else if key = "statement-cache-capacity" then (checkNumber lastCapacity value).map fun _ => o
  else .ok o

/-- What an option asks for. What is not known counts for nothing. -/
def set (engine : Engine) (o : ServerOptions) (key value : String) :
    Except ServerFault ServerOptions :=
  match engine, key with
  | .postgres, "host" => .ok { o with socket := o.socket || "/".toList.isPrefixOf value.toList }
  | .postgres, "hostaddr" => if isAddress value then .ok o else .error .address
  | .postgres, "port" => (checkNumber lastPort value).map fun _ => o
  | .mySql, "socket" => .ok { o with socket := true }
  | .mySql, "charset" => .ok { o with charset := value }
  | .mySql, "collation" => .ok { o with collation := some value }
  | _, _ => setCommon engine o key value

/-- The host of a URL. A host whose escapes begin with a slash is a directory. -/
def host (engine : Engine) (cs : List Char) : Except ServerFault ServerOptions :=
  match engine, Percent.decodeBytes cs with
  | .postgres, 0x2f :: _ => (checkText cs).map fun _ => { socket := true }
  | _, _ => .ok {}

/-- What a URL asks for: host, user, password and database are read, then its options in order. -/
def ofUrl (engine : Engine) (u : Url) : Except ServerFault ServerOptions := do
  let authority := u.authority.getD ⟨[], [], [], none⟩
  let o ← host engine authority.host
  checkText authority.username
  checkText authority.password
  checkText (u.path.chars.dropWhile (· == '/'))
  (Url.Query.pairs (u.query.getD [])).foldlM (fun o p => set engine o p.1 p.2) o

/-- Why a connection fails at once. -/
def failure? (o : ServerOptions) : Option ServerFault :=
  if o.charset ∉ Charset.names then some (.charset o.charset)
  else
    match o.collation.filter fun name => !Charset.isCollation name with
    | some name => some (.collation name)
    | none => if o.socket then some .noSocket else none

end ServerOptions

end DbLifecycle
