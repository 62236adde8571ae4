import DbLifecycle.Url.Basic
import DbLifecycle.Url.Address

/-!
# Reading URLs

The parts are read from the front: scheme, authority after two slashes, path, query and fragment.
Controls and blanks around the text, and tabs and line breaks anywhere in it, do not count.

* `Url.scheme?`: the scheme and what follows its colon.
* `Url.Authority.parse`: user, host and port.
* `Url.segments`: the segments of a path, `.` and `..` resolved.
* `Url.parse`: the URL of a text.
-/

namespace DbLifecycle

namespace Url

/-! ## Scheme -/

/-- Whether a character may stand in a scheme. -/
def isSchemeChar (c : Char) : Bool := c.isAlphanum || c == '+' || c == '-' || c == '.'

/-- The scheme in lower case and what follows its colon. -/
def scheme? (cs : List Char) : Option (List Char × List Char) :=
  match cs.takeWhile isSchemeChar, cs.dropWhile isSchemeChar with
  | c :: r, ':' :: rest => if c.isAlpha then some ((c :: r).map Char.toLower, rest) else none
  | _, _ => none

/-! ## Authority -/

/-- Whether a character ends the authority. -/
def endsAuthority (c : Char) : Bool := c == '/' || c == '?' || c == '#'

/-- Splits at the last at sign, if there is one. -/
def splitLastAt (cs : List Char) : Option (List Char × List Char) :=
  let after := (cs.reverse.takeWhile (· != '@')).reverse
  if cs.contains '@' then some (cs.take (cs.length - after.length - 1), after) else none

/-- Splits user information at its first colon into user name and password. -/
def splitUserinfo (cs : List Char) : List Char × List Char :=
  (cs.takeWhile (· != ':'), (cs.dropWhile (· != ':')).drop 1)

/-- Splits host from port at the first colon outside brackets. -/
def splitHost : Bool → List Char → List Char × List Char
  | _, [] => ([], [])
  | inside, c :: r =>
    if c = ':' ∧ inside = false then ([], c :: r)
    else
      let p := splitHost (if c = '[' then true else if c = ']' then false else inside) r
      (c :: p.1, p.2)

/-- Whether a character must not stand in a host. -/
def isForbiddenInHost (c : Char) : Bool :=
  c == '\x00' || c == '\t' || c == '\n' || c == '\r' || c == ' ' || c == '#' || c == '/' || c == ':'
    || c == '<' || c == '>' || c == '?' || c == '@' || c == '[' || c == '\\' || c == ']' || c == '^'
    || c == '|'

/-- The written form of a host: an address in brackets, or text without forbidden characters. -/
def host (cs : List Char) : Except ParseError (List Char) :=
  if cs.head? = some '[' then
    if cs.getLast? = some ']' then
      match Address.parse? (cs.drop 1).dropLast with
      | some pieces => .ok ('[' :: Address.chars pieces ++ [']'])
      | none => .error .invalidIpv6Address
    else .error .invalidIpv6Address
  else if cs.any isForbiddenInHost then .error .invalidDomainCharacter
  else .ok (Percent.encode isControl cs)

/-- The port after its colon, and what follows it: nothing, or a backslash that begins the path. -/
def port (cs : List Char) : Except ParseError (Option Nat × List Char) :=
  let digits := cs.takeWhile Char.isDigit
  let rest := cs.dropWhile Char.isDigit
  let n := Text.Integer.ofDigits digits
  if 65535 < n then .error .invalidPort
  else if rest.isEmpty ∨ rest.head? = some '\\' then
    .ok (if digits.isEmpty then none else some n, rest)
  else .error .invalidPort

/-- Host and port, and what follows them. A host may only be empty where nothing else is given. -/
def hostAndPort (cs : List Char) : Except ParseError (List Char × Option Nat × List Char) := do
  let parts := splitHost false cs
  let name ← host parts.1
  match parts.2 with
  | [] => .ok (name, none, [])
  | _ :: afterColon =>
    if name.isEmpty then .error .emptyHost
    else
      let (number, rest) ← port afterColon
      .ok (name, number, rest)

/-- The authority written in some characters, and those after a port that belong to the path. An
at sign must be followed by a host, unless nothing stands around it. -/
def Authority.parse (cs : List Char) (followed : Bool) :
    Except ParseError (Authority × List Char) := do
  let (username, password, rest) ← match splitLastAt cs with
    | none => .ok ([], [], cs)
    | some ([], after) =>
      if after.isEmpty ∧ followed then .error .emptyHost else .ok ([], [], after)
    | some (before, after) =>
      let (user, pass) := splitUserinfo before
      .ok (Percent.encode inUserinfo user, Percent.encode inUserinfo pass, after)
  let (name, number, rest) ← hostAndPort rest
  if name.isEmpty ∧ ¬(username.isEmpty ∧ password.isEmpty) then .error .emptyHost
  else .ok (⟨username, password, name, number⟩, rest)

/-! ## Path -/

/-- Whether a segment is a point or its escape. -/
def isSingleDot (s : List Char) : Bool :=
  s == ['.'] || s.map Char.toLower == ['%', '2', 'e']

/-- Whether a segment is two points, each possibly escaped. -/
def isDoubleDot (s : List Char) : Bool :=
  let t := s.map Char.toLower
  t == ['.', '.'] || t == ['%', '2', 'e', '.'] || t == ['.', '%', '2', 'e']
    || t == ['%', '2', 'e', '%', '2', 'e']

/-- Whether a segment is a drive letter with a colon or a bar. Such a segment is never left. -/
def isDrive : List Char → Bool
  | a :: b :: r => a.isAlpha && (b == ':' || b == '|') && (r.isEmpty || r.head? == some '\\')
  | _ => false

/-- Leaves the last segment. -/
def parent (done : List (List Char)) : List (List Char) :=
  match done.getLast? with
  | some s => if isDrive s then done else done.dropLast
  | none => done

/-- Adds segments to a path one after another, resolving the points. -/
def resolve (done : List (List Char)) : List (List Char) → List (List Char)
  | [] => done
  | [s] =>
    if isDoubleDot s then parent done ++ [[]]
    else if isSingleDot s then done ++ [[]]
    else done ++ [s]
  | s :: r =>
    if isDoubleDot s then resolve (parent done) r
    else if isSingleDot s then resolve done r
    else resolve (done ++ [s]) r

/-- The segments of a path after its first slash, escaped and resolved. -/
def segments (cs : List Char) : List (List Char) :=
  resolve [] ((cs.splitOn '/').map (Percent.encode inPath))

/-- A path after an authority: empty, or segments after a slash that may be left out. -/
def rootedPath : List Char → Path
  | [] => .rooted []
  | '/' :: r => .rooted (segments r)
  | cs => .rooted (segments cs)

/-! ## Whole URLs -/

/-- Whether a character is dropped wherever it stands. -/
def isIgnored (c : Char) : Bool := c == '\t' || c == '\n' || c == '\r'

/-- Whether a character is dropped at the two ends. -/
def isTrimmed (c : Char) : Bool := c.toNat ≤ 0x20

/-- The characters that count. -/
def significant (cs : List Char) : List Char :=
  ((cs.dropWhile isTrimmed).reverse.dropWhile isTrimmed).reverse.filter fun c => !isIgnored c

/-- Splits off what follows the first mark. -/
def splitMark (mark : Char) (cs : List Char) : List Char × Option (List Char) :=
  match cs.dropWhile (· != mark) with
  | [] => (cs, none)
  | _ :: r => (cs.takeWhile (· != mark), some r)

/-- Splits the text after the scheme into hierarchical part, query and fragment. -/
def splitParts (cs : List Char) : List Char × Option (List Char) × Option (List Char) :=
  let (front, fragment) := splitMark '#' cs
  let (front, query) := splitMark '?' front
  (front, query, fragment)

/-- Authority and path of the part before query and fragment; `marked` says that one of them
follows. -/
def hierarchy (cs : List Char) (followed : Bool) :
    Except ParseError (Option Authority × Path) :=
  match cs with
  | '/' :: '/' :: r => do
    let own := r.takeWhile (· != '/')
    let rest := r.dropWhile (· != '/')
    let (a, more) ← Authority.parse own (followed || !rest.isEmpty)
    .ok (some a, rootedPath (more ++ rest))
  | '/' :: r => .ok (none, .rooted (segments r))
  | _ => .ok (none, .rootless (Percent.encode isControl cs))

/-- The URL a text writes. -/
def parse (s : String) : Except ParseError Url :=
  match scheme? (significant s.toList) with
  | none => .error .relativeWithoutBase
  | some (scheme, rest) => do
    let (front, query, fragment) := splitParts rest
    let (authority, path) ← hierarchy front (query.isSome || fragment.isSome)
    .ok ⟨scheme, authority, path, query.map (Percent.encode inQuery),
      fragment.map (Percent.encode inFragment)⟩

end Url

end DbLifecycle
