import DbLifecycle.Config.Basic
import DbLifecycle.Config.Layer
import DbLifecycle.Text.Lowercase

/-!
# Reading records from configuration values

Plain values are converted to the type a field asks for; tables and lists must have the shape that
is asked for, and nothing inside a connection is converted.

* `Value.asText`, `Value.asBool`, `Value.asNat16`: conversions.
* `Value.asList`, `Value.asDict`, `Value.asFields`: shapes.
* `Value.asConnection`, `Value.asConfig`: a connection and a whole configuration.
-/

namespace DbLifecycle

namespace Value

variable {α : Type}

/-- A result or an error with the way to it. -/
abbrev Reading (α : Type) := Except Error α

/-- An error at the value itself. -/
def problem (p : Problem) : Reading α := .error ⟨p, []⟩

/-- Reads a part of a value; an error in it names the step to it. -/
def within (step : Step) (r : Reading α) : Reading α := r.mapError (Error.under step)

/-- What an error says it found. -/
def found : Value → Found
  | .scalar _ v => .scalar v
  | .list _ _ => .list
  | .table _ _ => .table

/-- The place a value was written at. -/
def origin : Value → Option Origin
  | .scalar origin _ => origin
  | .list origin _ => origin
  | .table origin _ => origin

/-! ## Conversions -/

/-- The value cannot be converted to what was asked for. -/
def inconvertible (expected : String) (v : Value) : Reading α :=
  problem (.inconvertible v.found expected v.origin)

/-- A text: numbers and booleans are written out. -/
def asText : Value → Reading String
  | .scalar _ (.text s) => .ok s
  | .scalar _ (.bool b) => .ok (toString b)
  | .scalar _ (.int n) => .ok (toString n)
  | .scalar _ (.float x) => .ok x.positional
  | v => v.inconvertible "a string"

/-- A boolean: numbers count as true unless they are zero, and some words are understood. -/
def asBool : Value → Reading Bool
  | .scalar _ (.bool b) => .ok b
  | .scalar _ (.int n) => .ok (n != 0)
  | .scalar _ (.float x) => .ok (!x.isZero)
  | .scalar origin (.text s) =>
    let word := Text.lowered s
    if word ∈ ["1", "true", "on", "yes"] then .ok true
    else if word ∈ ["0", "false", "off", "no"] then .ok false
    else inconvertible "a boolean" (.scalar origin (.text word))
  | v => v.inconvertible "a boolean"

/-- A whole number of 64 bits: floating point is rounded, and some words are understood. -/
def asNat64 : Value → Reading Nat
  | .scalar _ (.bool b) => .ok b.toNat
  | .scalar origin (.int n) =>
    if 0 ≤ n then .ok n.toNat
    else inconvertible "an unsigned 64 bit or less integer" (.scalar origin (.int n))
  | .scalar _ (.float x) => .ok (x.toNat (Text.Integer.maxUnsigned 64))
  | .scalar origin (.text s) =>
    let word := Text.lowered s
    if word ∈ ["true", "on", "yes"] then .ok 1
    else if word ∈ ["false", "off", "no"] then .ok 0
    else
      match Text.Integer.unsigned? (Text.Integer.maxUnsigned 64) s.toList with
      | some n => .ok n
      | none => inconvertible "an integer" (.scalar origin (.text s))
  | v => v.inconvertible "an integer"

/-- A whole number of 16 bits. -/
def asNat16 (v : Value) : Reading Nat := do
  let n ← asNat64 v
  if n ≤ Text.Integer.maxUnsigned 16 then .ok n
  else problem (.tooLarge n "an unsigned 16 bit integer")

/-- Nothing for null, otherwise a value. -/
def asOption (item : Value → Reading α) : Value → Reading (Option α)
  | .scalar _ .null => .ok none
  | v => (item v).map some

/-! ## Shapes -/

/-- The value does not have the shape that was asked for. -/
def wrongShape (expected : String) (v : Value) : Reading α :=
  problem (.wrongShape v.found expected)

/-- Reads items from an index on. -/
def readItems (item : Value → Reading α) : Nat → List Value → Reading (List α)
  | _, [] => .ok []
  | i, v :: r => do
    let a ← within (.index i) (item v)
    let as ← readItems item (i + 1) r
    .ok (a :: as)

/-- A list of values of one type. -/
def asList (item : Value → Reading α) : Value → Reading (List α)
  | .list _ vs => readItems item 0 vs
  | v => v.wrongShape "a sequence"

/-- A table of values of one type. -/
def asDict (item : Value → Reading α) : Value → Reading (Dict α)
  | .table _ ms => (ms.mapM fun (k, v) => (within (.key k) (item v)).map (k, ·)).map Dict.ofList
  | v => v.wrongShape "a map"

/-- The fields of a record as they were given. -/
inductive Fields where
  | named (members : List (String × Value))
  | listed (items : List Value)

/-- The fields a value gives for a record. -/
def asFields (record : String) : Value → Reading Fields
  | .table _ ms => .ok (.named ms)
  | .list _ vs => .ok (.listed vs)
  | v => v.wrongShape ("struct " ++ record)

/-- A field of a table, if it is there. -/
def given? (name : String) (item : Value → Reading α) (ms : List (String × Value)) :
    Reading (Option α) :=
  match Entries.lookup name ms with
  | none => .ok none
  | some v => (within (.key name) (item v)).map some

/-- A field that must be there. -/
def required (name : String) : Option α → Reading α
  | some v => .ok v
  | none => .error ⟨.missing, [.key name]⟩

/-- The field at a place of a list; a missing one takes the default, if the field has one. -/
def listed (record : String) (fields place : Nat) (item : Value → Reading α) (default? : Option α)
    (vs : List Value) : Reading α :=
  match vs[place]?, default? with
  | some v, _ => within (.index place) (item v)
  | none, some d => .ok d
  | none, none => problem (.tooShort place record fields)

/-! ## Connections and configurations -/

mutual

/-- The value without its origins. -/
def toJson : Value → Json
  | .scalar _ .null => .null
  | .scalar _ (.bool b) => .bool b
  | .scalar _ (.int n) => .num (.int n)
  | .scalar _ (.float x) => .num (.float x)
  | .scalar _ (.text s) => .str s
  | .list _ vs => .arr (toJsonItems vs)
  | .table _ ms => .obj (toJsonMembers ms)

/-- The items of a list without their origins. -/
def toJsonItems : List Value → List Json
  | [] => []
  | v :: r => toJson v :: toJsonItems r

/-- The entries of a table without their origins. -/
def toJsonMembers : List (String × Value) → List (String × Json)
  | [] => []
  | (k, v) :: r => (k, toJson v) :: toJsonMembers r

end

/-- A connection; nothing in it is converted. -/
def asConnection (v : Value) : Reading ConnectionSpec :=
  match ConnectionSpec.decode v.toJson with
  | .ok spec => .ok spec
  | .error _ => problem (.noAlternative "ConnectionSpec")

/-- An app from a table or a list. -/
def asApp (v : Value) : Reading App := do
  match ← asFields "AppConfig" v with
  | .named ms =>
    let connection ← given? "default_connection" asText ms
    let models ← given? "models" (asList asText) ms
    let models ← required "models" models
    .ok ⟨models, connection.getD defaultAlias⟩
  | .listed vs =>
    let models ← listed "AppConfig" 2 0 (asList asText) none vs
    let connection ← listed "AppConfig" 2 1 asText (some defaultAlias) vs
    .ok ⟨models, connection⟩

/-- A configuration from the table of a file. -/
def asConfig (v : Value) : Reading Config := do
  let apps ← given? "apps" (asDict asApp) v.members
  let connections ← given? "connections" (asDict asConnection) v.members
  let connections ← required "connections" connections
  let apps ← required "apps" apps
  .ok ⟨connections, apps⟩

end Value

end DbLifecycle
