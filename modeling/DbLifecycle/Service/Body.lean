import DbLifecycle.Json.Decode
import DbLifecycle.Json.Lexer
import DbLifecycle.User.Basic

/-!
# Bodies of requests

A user is read from the text of a body in one go, so the first thing that is wrong is what is
reported: a break of the grammar, or data that do not fit, with the place where that showed.

* `BodyError`: what is wrong with a body; data come with the characters that were left to read.
* `Body.skipValue`: passes over the value of a member that is not asked for.
* `Body.user`: a user from the characters of a body.
* `Body.place`: line and column of a place in a text.
-/

namespace DbLifecycle

/-- What is wrong with a body. -/
inductive BodyError where
  | grammar
  /-- Data that do not fit, in the part of the body that `path` names. -/
  | data (path : Option String) (m : Mismatch) (rest : List Char)
  deriving DecidableEq, Repr

namespace Body

open Json

/-- A part that was read and what follows it. -/
abbrev Reading (α : Type) := Except BodyError (α × List Char)

/-- Breaks of the grammar are errors. -/
def orGrammar {α : Type} : Option (α × List Char) → Reading α
  | some p => .ok p
  | none => .error .grammar

/-! ## Passing over values -/

/-- The characters after a text in quotes, after its opening quote. Escapes need not make sense. -/
def skipText : List Char → Option (List Char)
  | [] => none
  | '"' :: r => some r
  | '\\' :: 'u' :: a :: b :: c :: d :: r => (hex4? a b c d).bind fun _ => skipText r
  | '\\' :: e :: r => (simpleEscape? e).bind fun _ => skipText r
  | c :: r => if c.toNat < 0x20 ∨ c = '\\' then none else skipText r

/-- The characters after a number of any size. -/
def skipNumber (cs : List Char) : Option (List Char) := do
  let cs := match cs with
    | '-' :: r => r
    | _ => cs
  let (_, cs) ← wholeDigits cs
  let (_, cs) ← fraction cs
  let (_, cs) ← exponent cs
  some cs

mutual

/-- The characters after a value. -/
def skipValue : Nat → List Char → Option (List Char)
  | 0, _ => none
  | fuel + 1, cs =>
    match skipBlank cs with
    | '"' :: r => skipText r
    | '[' :: r =>
      match skipBlank r with
      | ']' :: r => some r
      | r => skipItems fuel r
    | '{' :: r =>
      match skipBlank r with
      | '}' :: r => some r
      | r => skipMembers fuel r
    | 'n' :: r => keyword ['u', 'l', 'l'] r
    | 't' :: r => keyword ['r', 'u', 'e'] r
    | 'f' :: r => keyword ['a', 'l', 's', 'e'] r
    | r => skipNumber r

/-- The characters after the items of an array and its closing bracket. -/
def skipItems : Nat → List Char → Option (List Char)
  | 0, _ => none
  | fuel + 1, cs =>
    (skipValue fuel cs).bind fun r =>
      match skipBlank r with
      | ']' :: r => some r
      | ',' :: r => skipItems fuel r
      | _ => none

/-- The characters after the members of an object and its closing brace. -/
def skipMembers : Nat → List Char → Option (List Char)
  | 0, _ => none
  | fuel + 1, cs =>
    match skipBlank cs with
    | '"' :: r =>
      (skipText r).bind fun r =>
        match skipBlank r with
        | ':' :: r =>
          (skipValue fuel r).bind fun r =>
            match skipBlank r with
            | '}' :: r => some r
            | ',' :: r => skipMembers fuel r
            | _ => none
        | _ => none
    | _ => none

end

/-! ## Fields -/

/-- The mismatch of the value at the front with what was expected. A plain value is read to its end,
an array or an object is not entered. -/
def mismatch {α : Type} (path : Option String) (expected : String) (cs : List Char) :
    Except BodyError (α × List Char) :=
  let wrong (found : Found) (rest : List Char) : Except BodyError (α × List Char) :=
    .error (.data path (.invalidType found expected) rest)
  match cs with
  | '[' :: _ => wrong .sequence cs
  | '{' :: _ => wrong .map cs
  | _ => do
    let (v, rest) ← match cs with
      | '"' :: r => orGrammar ((stringBody r).map fun p => (Found.text (String.ofList p.1), p.2))
      | 'n' :: r => orGrammar ((keyword ['u', 'l', 'l'] r).map fun r => (Found.null, r))
      | 't' :: r => orGrammar ((keyword ['r', 'u', 'e'] r).map fun r => (Found.bool true, r))
      | 'f' :: r => orGrammar ((keyword ['a', 'l', 's', 'e'] r).map fun r => (Found.bool false, r))
      | cs => orGrammar ((number cs).map fun p => ((Json.num p.1).found, p.2))
    wrong v rest

/-- A text. -/
def text (path : String) (cs : List Char) : Reading String :=
  match skipBlank cs with
  | '"' :: r => orGrammar ((stringBody r).map fun p => (String.ofList p.1, p.2))
  | cs => mismatch (some path) "a string" cs

/-- Null or a text. -/
def text? (path : String) (cs : List Char) : Reading (Option String) :=
  match skipBlank cs with
  | 'n' :: r => orGrammar ((keyword ['u', 'l', 'l'] r).map fun r => (none, r))
  | cs => (text path cs).map fun p => (some p.1, p.2)

/-! ## Users -/

/-- The fields of a user that have been read. -/
structure Partial where
  username : Option String := none
  name : Option (Option String) := none
  familyName : Option (Option String) := none

/-- The value of a member, after its colon. Members with other names are passed over. -/
def field (key : String) (p : Partial) (cs : List Char) : Reading Partial :=
  match key with
  | "username" => (text key cs).map fun q => ({ p with username := some q.1 }, q.2)
  | "name" => (text? key cs).map fun q => ({ p with name := some q.1 }, q.2)
  | "family_name" => (text? key cs).map fun q => ({ p with familyName := some q.1 }, q.2)
  | _ =>
    match skipValue (2 * cs.length + 2) cs with
    | some r => .ok (p, r)
    | none => .error .grammar

/-- Whether a field has been read before. -/
def isGiven (key : String) (p : Partial) : Bool :=
  match key with
  | "username" => p.username.isSome
  | "name" => p.name.isSome
  | "family_name" => p.familyName.isSome
  | _ => false

/-- The user whose fields have all been read. -/
def finish (p : Partial) (rest : List Char) : Reading UserInput :=
  match p.username with
  | some username => .ok (⟨username, p.name.join, p.familyName.join⟩, rest)
  | none => .error (.data none (.missingField "username") rest)

/-- The members of an object up to its closing brace. -/
def members : Nat → Partial → List Char → Except BodyError (UserInput × List Char)
  | 0, _, _ => .error .grammar
  | fuel + 1, p, cs =>
    match skipBlank cs with
    | '"' :: r => do
      let (key, r) ← orGrammar (stringBody r)
      let key := String.ofList key
      if isGiven key p then .error (.data none (.duplicateField key) (skipBlank r))
      else
        match skipBlank r with
        | ':' :: r => do
          let (p, r) ← field key p r
          match skipBlank r with
          | '}' :: r => finish p r
          | ',' :: r => members fuel p r
          | _ => .error .grammar
        | _ => .error .grammar
    | _ => .error .grammar

/-- The place in an array, as a message names it. -/
def placeName (i : Nat) : String := "[" ++ toString i ++ "]"

/-- The item at a place of an array, where the items before it have been read. -/
def item {α : Type} (read : String → List Char → Reading α) (i : Nat) (cs : List Char) :
    Reading α :=
  match skipBlank cs with
  | ']' :: r => .error (.data none (.tooShort i "UserInDto" 3) r)
  | cs =>
    if i = 0 then read (placeName i) cs
    else
      match cs with
      | ',' :: r =>
        match skipBlank r with
        | ']' :: _ => .error .grammar
        | r => read (placeName i) r
      | _ => .error .grammar

/-- The three items of an array up to its closing bracket. -/
def items (cs : List Char) : Except BodyError (UserInput × List Char) := do
  let (username, cs) ← item text 0 cs
  let (name, cs) ← item text? 1 cs
  let (familyName, cs) ← item text? 2 cs
  match skipBlank cs with
  | ']' :: r => .ok (⟨username, name, familyName⟩, r)
  | _ => .error .grammar

/-- A user from the characters of a body; nothing but blanks may follow. -/
def user (cs : List Char) : Except BodyError UserInput := do
  let (u, rest) ← match skipBlank cs with
    | '{' :: r =>
      match skipBlank r with
      | '}' :: r => finish {} r
      | r => members (r.length + 1) {} r
    | '[' :: r => items r
    | cs => mismatch none "struct UserInDto" cs
  if (skipBlank rest).isEmpty then .ok u else .error .grammar

/-! ## Places -/

/-- Line and column of the place where `rest` is left of a text. Columns count the bytes of the line
before the place. -/
def place (cs rest : List Char) : Nat × Nat :=
  let read := cs.take (cs.length - rest.length)
  let line := (read.reverse.takeWhile (· != '\n')).reverse
  (read.count '\n' + 1, (String.ofList line).utf8ByteSize)

end Body

end DbLifecycle
