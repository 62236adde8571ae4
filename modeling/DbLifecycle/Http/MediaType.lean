/-!
# Media types

* `MediaType.ofText?`: type and subtype of a header, which may be followed by parameters.
* `MediaType.isJson`: whether a header names a kind of JSON.
-/

namespace DbLifecycle.Http

/-- Type and subtype, in small letters. -/
structure MediaType where
  main : List Char
  sub : List Char
  deriving DecidableEq, Repr

namespace MediaType

/-- Whether a character may stand in a name. -/
def isTokenChar (c : Char) : Bool :=
  c.isAlphanum || c == '!' || c == '#' || c == '$' || c == '%' || c == '&' || c == '\'' || c == '*'
    || c == '+' || c == '-' || c == '.' || c == '^' || c == '_' || c.toNat == 0x60 || c == '|'
    || c == '~'

/-- Whether a character may stand between quotes. -/
def isQuotedChar (c : Char) : Bool := 0x20 ≤ c.toNat && c.toNat < 0x7f

/-- What follows a value in quotes and blanks after it. The first character never ends the value. -/
def quotedValue? : List Char → Option (List Char)
  | [] => none
  | c :: r =>
    let inner := r.takeWhile fun c => isQuotedChar c && c != '"'
    match r.drop inner.length with
    | '"' :: r => if isQuotedChar c then some (r.dropWhile (· == ' ')) else none
    | _ => none

/-- Whether parameters are well formed: a name, an equals sign and a value each, with semicolons
between them. -/
def areParameters : Nat → List Char → Bool
  | 0, _ => false
  | fuel + 1, cs =>
    let cs := cs.dropWhile (· == ' ')
    let name := cs.takeWhile isTokenChar
    match cs.drop name.length with
    | '=' :: '"' :: r =>
      match quotedValue? r with
      | some [] => !name.isEmpty
      | some (';' :: r) => !name.isEmpty && areParameters fuel r
      | _ => false
    | '=' :: r =>
      let value := r.takeWhile isTokenChar
      match r.drop value.length with
      | [] => !name.isEmpty
      | ';' :: r => !name.isEmpty && !value.isEmpty && areParameters fuel r
      | _ => false
    | r => r.isEmpty && name.isEmpty

/-- Type and subtype of a header. -/
def ofText? (text : String) : Option MediaType :=
  let cs := text.toLower.toList
  let main := cs.takeWhile isTokenChar
  match cs.drop main.length with
  | '/' :: r =>
    let sub := r.takeWhile isTokenChar
    match r.drop sub.length with
    | [] => if main.isEmpty then none else some ⟨main, sub⟩
    | ';' :: r =>
      if main.isEmpty ∨ sub.isEmpty ∨ !areParameters (r.length + 1) r then none
      else some ⟨main, sub⟩
    | _ => none
  | _ => none

/-- The part of a subtype after its last plus sign, if there is one that does not begin it. -/
def suffix? (t : MediaType) : Option (List Char) :=
  let suffix := (t.sub.reverse.takeWhile (· != '+')).reverse
  if suffix.length + 1 < t.sub.length then some suffix else none

/-- The part of a subtype before its suffix. -/
def bare (t : MediaType) : List Char :=
  match t.suffix? with
  | some suffix => t.sub.take (t.sub.length - suffix.length - 1)
  | none => t.sub

/-- Whether a header names a kind of JSON: `json` as the subtype or as its suffix. -/
def isJson (text : String) : Bool :=
  match ofText? text with
  | some t =>
    t.main == "application".toList
      && (t.bare == "json".toList || t.suffix? == some "json".toList)
  | none => false

end MediaType

end DbLifecycle.Http
