import DbLifecycle.Dict
import DbLifecycle.Json.Lexer

/-!
# Reading JSON

A text holds one value with blanks around it. The members of an object are put into increasing
order of their names, and of several members with one name the last one counts. Texts that are
nested too deep are refused.

* `Json.value`: one value at the front of the characters.
* `Json.parse?`: the value of a whole text.
-/

namespace DbLifecycle

namespace Json

mutual

/-- One value from the front of the characters; `fuel` bounds the number of nested calls. -/
def value : Nat → List Char → Option (Json × List Char)
  | 0, _ => none
  | fuel + 1, cs =>
    match skipBlank cs with
    | '"' :: r => (stringBody r).map fun p => (.str (String.ofList p.1), p.2)
    | '[' :: r =>
      match skipBlank r with
      | ']' :: r => some (.arr [], r)
      | r => (items fuel r).map fun p => (.arr p.1, p.2)
    | '{' :: r =>
      match skipBlank r with
      | '}' :: r => some (.obj [], r)
      | r => (members fuel r).map fun p =>
        (.obj (p.1.foldl (fun es m => Entries.insert m.1 m.2 es) []), p.2)
    | 'n' :: r => (keyword ['u', 'l', 'l'] r).map fun r => (.null, r)
    | 't' :: r => (keyword ['r', 'u', 'e'] r).map fun r => (.bool true, r)
    | 'f' :: r => (keyword ['a', 'l', 's', 'e'] r).map fun r => (.bool false, r)
    | r => (number r).map fun p => (.num p.1, p.2)

/-- The items of an array up to its closing bracket. -/
def items : Nat → List Char → Option (List Json × List Char)
  | 0, _ => none
  | fuel + 1, cs =>
    (value fuel cs).bind fun p =>
      match skipBlank p.2 with
      | ']' :: r => some ([p.1], r)
      | ',' :: r => (items fuel r).map fun q => (p.1 :: q.1, q.2)
      | _ => none

/-- The members of an object up to its closing brace, in the order of the text. -/
def members : Nat → List Char → Option (List (String × Json) × List Char)
  | 0, _ => none
  | fuel + 1, cs =>
    match skipBlank cs with
    | '"' :: r =>
      (stringBody r).bind fun k =>
        match skipBlank k.2 with
        | ':' :: r =>
          (value fuel r).bind fun p =>
            match skipBlank p.2 with
            | '}' :: r => some ([(String.ofList k.1, p.1)], r)
            | ',' :: r => (members fuel r).map fun q => ((String.ofList k.1, p.1) :: q.1, q.2)
            | _ => none
        | _ => none
    | _ => none

end

/-- How deep a text may be nested. -/
def maxDepth : Nat := 127

/-- The value of a text, if it is one. Every second nested call takes a character, so twice their
number is fuel enough. -/
def parse? (text : String) : Option Json :=
  let cs := text.toList
  match value (2 * cs.length + 2) cs with
  | some (v, r) => if (skipBlank r).isEmpty ∧ v.depth ≤ maxDepth then some v else none
  | none => none

end Json

end DbLifecycle
