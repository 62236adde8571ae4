import DbLifecycle.Json.Basic
import DbLifecycle.Text.Quoted

/-!
# Validation

* `Violation`: a value outside its bounds.
* `Invalid`: the violations of a record, by field.
* `Invalid.message`: one line for each of them.
-/

namespace DbLifecycle

/-- A value outside its bounds. Lengths count characters. -/
inductive Violation where
  /-- A text that is too long, or too short where there is a least length. -/
  | length (min : Option Nat) (max : Nat) (value : String) (text : Option String)
  /-- A number that is too small. -/
  | range (min : Int) (value : Int) (text : Option String)
  deriving DecidableEq, Repr

namespace Violation

/-- The name of the rule that is violated. -/
def code : Violation → String
  | .length .. => "length"
  | .range .. => "range"

/-- The text of its own that the rule gives, if it has one. -/
def text? : Violation → Option String
  | .length _ _ _ text => text
  | .range _ _ text => text

/-- The bounds and the value. -/
def params : Violation → List (String × Json)
  | .length min max value _ =>
    [("max", Json.nat max)] ++ (match min with
      | some n => [("min", Json.nat n)]
      | none => []) ++ [("value", .str value)]
  | .range min value _ => [("min", .int min), ("value", .int value)]

/-- A bound or a value as a message shows it. -/
def shown : Json → String
  | .str s => "String(" ++ Text.quoted s ++ ")"
  | .num (.int n) => "Number(" ++ toString n ++ ")"
  | _ => ""

/-- The wording: the text of the rule, or its name with bounds and value. -/
def message (v : Violation) : String :=
  match v.text? with
  | some text => text
  | none =>
    "Validation error: " ++ v.code ++ " [\x7b" ++
      ", ".intercalate (v.params.map fun p => Text.quoted p.1 ++ ": " ++ shown p.2) ++ "\x7d]"

end Violation

/-- The violations of a record, each with its field, in the order of the fields' names. -/
structure Invalid where
  violations : List (String × Violation)
  deriving DecidableEq, Repr

/-- One line for each violation. -/
def Invalid.message (e : Invalid) : String :=
  "\n".intercalate (e.violations.map fun v => v.1 ++ ": " ++ v.2.message)

end DbLifecycle
