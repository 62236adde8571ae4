import DbLifecycle.Binary64

/-!
# JSON values

* `Json`: null, booleans, numbers, texts, arrays and objects. An object keeps its members in the
  order it was given them.
* `Json.Number`: whole numbers apart from doubles, as `1` and `1.0` are different values.
* `Json.member?`: the member of an object with a given name.
* `Json.depth`: how deep arrays and objects are nested.
-/

namespace DbLifecycle

/-- A JSON number: a whole number, or a double. -/
inductive Json.Number where
  | int (n : Int)
  | float (x : Binary64)
  deriving DecidableEq, Repr, Inhabited

/-- A JSON value. -/
inductive Json where
  | null
  | bool (b : Bool)
  | num (n : Json.Number)
  | str (s : String)
  | arr (items : List Json)
  | obj (members : List (String × Json))
  deriving Repr, Inhabited

namespace Json

/-- A whole number. -/
def int (n : Int) : Json := .num (.int n)

/-- A whole number that is not negative. -/
def nat (n : Nat) : Json := .num (.int n)

/-- An array of texts. -/
def texts (ss : List String) : Json := .arr (ss.map .str)

/-- A text, or null. -/
def text? : Option String → Json
  | none => .null
  | some s => .str s

/-- The last member with a name, if the value is an object. -/
def member? (name : String) : Json → Option Json
  | .obj ms => (ms.reverse.find? fun m => m.1 = name).map (·.2)
  | _ => none

mutual

/-- How deep arrays and objects are nested. -/
def depth : Json → Nat
  | arr items => itemsDepth items + 1
  | obj members => membersDepth members + 1
  | _ => 0

/-- The depth of the deepest item. -/
def itemsDepth : List Json → Nat
  | [] => 0
  | v :: r => max (depth v) (itemsDepth r)

/-- The depth of the deepest member. -/
def membersDepth : List (String × Json) → Nat
  | [] => 0
  | (_, v) :: r => max (depth v) (membersDepth r)

end

end Json

end DbLifecycle
