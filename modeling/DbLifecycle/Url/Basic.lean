import DbLifecycle.Percent

/-!
# URLs

The parts of a URL whose scheme gives its host no structure: hosts are kept as they are written,
apart from addresses in brackets.

* `Url`: scheme, authority, path, query and fragment, in their written forms.
* `Url.chars`, `Url.text`: the written form of the whole.
* `Url.ParseError`: why a text is not a URL.
* `Url.inFragment`, `Url.inQuery`, `Url.inPath`, `Url.inUserinfo`: what each part escapes.
-/

namespace DbLifecycle

namespace Url

/-! ## Escape sets -/

/-- Controls are escaped everywhere. -/
def isControl (c : Char) : Bool := c.toNat < 0x20 || c.toNat == 0x7f

/-- The characters escaped in a fragment. -/
def inFragment (c : Char) : Bool :=
  isControl c || c == ' ' || c == '"' || c == '<' || c == '>' || c.toNat == 0x60

/-- The characters escaped in a query. -/
def inQuery (c : Char) : Bool :=
  isControl c || c == ' ' || c == '"' || c == '#' || c == '<' || c == '>'

/-- The characters escaped in a path. -/
def inPath (c : Char) : Bool :=
  inFragment c || c == '#' || c == '?' || c.toNat == 0x7b || c.toNat == 0x7d

/-- The characters escaped in a user name or a password. -/
def inUserinfo (c : Char) : Bool :=
  inPath c || c == '/' || c == ':' || c == ';' || c == '=' || c == '@' || c == '[' || c == '\\'
    || c == ']' || c == '^' || c == '|'

/-! ## Parts -/

/-- User, host and port of a URL. An empty user name or password is an absent one. -/
structure Authority where
  username : List Char
  password : List Char
  host : List Char
  port : Option Nat
  deriving DecidableEq, Repr

/-- The path: segments that each follow a slash, or text that starts without one. -/
inductive Path where
  | rooted (segments : List (List Char))
  | rootless (cs : List Char)
  deriving DecidableEq, Repr

end Url

/-- A URL in its parts. -/
structure Url where
  scheme : List Char
  authority : Option Url.Authority
  path : Url.Path
  query : Option (List Char)
  fragment : Option (List Char)
  deriving DecidableEq, Repr

namespace Url

/-! ## Written form -/

/-- The user name, a colon and the password, and an at sign, as far as they are there. -/
def Authority.userinfo (a : Authority) : List Char :=
  if a.username.isEmpty ∧ a.password.isEmpty then []
  else a.username ++ (if a.password.isEmpty then [] else ':' :: a.password) ++ ['@']

/-- A colon and the port, if there is one. -/
def portChars : Option Nat → List Char
  | none => []
  | some n => ':' :: Nat.toDigits 10 n

/-- The authority after its two slashes. -/
def Authority.chars (a : Authority) : List Char := a.userinfo ++ a.host ++ portChars a.port

/-- The segments of a path, each after its slash. -/
def Path.chars : Path → List Char
  | .rooted segments => segments.flatMap ('/' :: ·)
  | .rootless cs => cs

/-- Without an authority, a path that starts with an empty segment would be read as one. -/
def needsDot (authority : Option Authority) : Path → Bool
  | .rooted ([] :: _ :: _) => authority.isNone
  | _ => false

/-- A mark and a part, if the part is there. -/
def marked (mark : Char) : Option (List Char) → List Char
  | none => []
  | some cs => mark :: cs

/-- The characters of a URL. -/
def chars (u : Url) : List Char :=
  u.scheme ++ ':' ::
    ((match u.authority with
      | some a => '/' :: '/' :: a.chars
      | none => if needsDot u.authority u.path then ['/', '.'] else [])
    ++ u.path.chars ++ marked '?' u.query ++ marked '#' u.fragment)

/-- The text of a URL. -/
def text (u : Url) : String := String.ofList u.chars

/-! ## Errors -/

/-- Why a text is not a URL. -/
inductive ParseError where
  | relativeWithoutBase
  | emptyHost
  | invalidPort
  | invalidIpv6Address
  | invalidDomainCharacter
  deriving DecidableEq, Repr

/-- The wording of an error. -/
def ParseError.message : ParseError → String
  | .relativeWithoutBase => "relative URL without a base"
  | .emptyHost => "empty host"
  | .invalidPort => "invalid port number"
  | .invalidIpv6Address => "invalid IPv6 address"
  | .invalidDomainCharacter => "invalid domain character"

end Url

end DbLifecycle
