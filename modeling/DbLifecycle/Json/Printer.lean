import DbLifecycle.Json.Basic

/-!
# Writing JSON

A value on one line without blanks. Characters beyond ASCII are written as themselves.

* `Json.escapedChar`: one character inside quotes.
* `Json.chars`, `Json.compact`: the text of a value.
-/

namespace DbLifecycle

namespace Json

/-- The written form of one character of a text: quotes, backslashes and controls are escaped. -/
def escapedChar (c : Char) : List Char :=
  match c with
  | '"' => ['\\', '"']
  | '\\' => ['\\', '\\']
  | '\n' => ['\\', 'n']
  | '\r' => ['\\', 'r']
  | '\t' => ['\\', 't']
  | '\x08' => ['\\', 'b']
  | '\x0c' => ['\\', 'f']
  | c =>
    if c.toNat < 0x20 then
      ['\\', 'u', '0', '0', Nat.digitChar (c.toNat / 16), Nat.digitChar (c.toNat % 16)]
    else [c]

/-- A text in quotes. -/
def quotedChars (s : String) : List Char := '"' :: s.toList.flatMap escapedChar ++ ['"']

/-- The text of a number. A double that is no number is written as null. -/
def Number.text : Number → String
  | .int n => toString n
  | .float .nan => "null"
  | .float (.infinite _) => "null"
  | .float x => x.compact

mutual

/-- The characters of a value. -/
def chars : Json → List Char
  | .null => "null".toList
  | .bool true => "true".toList
  | .bool false => "false".toList
  | .num n => n.text.toList
  | .str s => quotedChars s
  | .arr items => '[' :: charsItems items ++ [']']
  | .obj members => '{' :: charsMembers members ++ ['}']

/-- The characters of the items of an array, with commas between them. -/
def charsItems : List Json → List Char
  | [] => []
  | [v] => chars v
  | v :: w :: r => chars v ++ ',' :: charsItems (w :: r)

/-- The characters of the members of an object, with commas between them. -/
def charsMembers : List (String × Json) → List Char
  | [] => []
  | [(k, v)] => quotedChars k ++ ':' :: chars v
  | (k, v) :: m :: r => quotedChars k ++ ':' :: chars v ++ ',' :: charsMembers (m :: r)

end

/-- The text of a value. -/
def compact (v : Json) : String := String.ofList v.chars

end Json

end DbLifecycle
