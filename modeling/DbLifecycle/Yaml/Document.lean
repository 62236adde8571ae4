import DbLifecycle.Dict
import DbLifecycle.Json.Basic
import DbLifecycle.Yaml.Node

/-!
# Reading YAML

A document without references and tags has the shape of a JSON value.

* `Node.toJson?`: the value of a node.
* `Yaml.parse?`: the value of a text; a text without a document has none.
-/

namespace DbLifecycle.Yaml

/-- The name that a key stands for: numbers and booleans are written out, and null is no name. -/
def Scalar.name? : Scalar → Option String
  | null => none
  | bool b => some (toString b)
  | int n => some (toString n)
  | real t => some t
  | .text s => some s

/-- The value of a scalar. Infinities have none, nor has what is not a number. -/
def Scalar.toJson? : Scalar → Option Json
  | null => some .null
  | bool b => some (.bool b)
  | int n => some (.num (.int n))
  | real t => (Text.Decimal.parse? t.toList).map fun x => .num (.float x)
  | .text s => some (.str s)

/-- The name that a node stands for as a key. -/
def Node.name? : Node → Option String
  | scalar v => v.name?
  | _ => none

namespace Node

mutual

/-- The value of a node. Of two keys with one name the later one counts. -/
def toJson? : Node → Option Json
  | void => some .null
  | scalar v => v.toJson?
  | list vs => (toJsonItems? vs).map .arr
  | mapping es => (toJsonMembers? es []).map .obj

/-- The values of the items of a list. -/
def toJsonItems? : List Node → Option (List Json)
  | [] => some []
  | v :: r => (toJson? v).bind fun v => (toJsonItems? r).map (v :: ·)

/-- The members of a mapping, added to some others. -/
def toJsonMembers? : List (Node × Node) → List (String × Json) → Option (List (String × Json))
  | [], ms => some ms
  | (k, v) :: r, ms =>
    k.name?.bind fun k => (toJson? v).bind fun v => toJsonMembers? r (Entries.insert k v ms)

end

end Node

/-- The value of a text: `some none` if it has no document, `none` if it breaks the grammar or has
several. -/
def parse? (text : String) : Option (Option Json) :=
  match (Token.scan? text).bind Node.ofTokens? with
  | none => none
  | some none => some none
  | some (some v) => v.toJson?.map some

end DbLifecycle.Yaml
