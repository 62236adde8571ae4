import DbLifecycle.Json.Basic
import DbLifecycle.Text.Integer
import DbLifecycle.Text.Quoted

/-!
# Reading records from JSON

A record is an object with one member per field, or an array of its fields in order. Members with
other names are ignored. The first member that does not fit its field is reported, in increasing
order of names; fields that are missing are reported after that, in the order of the record.

* `Mismatch`: why a value does not fit, and `Mismatch.message`, its wording.
* `Json.Found`: how a message names a value that was found.
* `Json.asText`, `Json.asBool`, `Json.asList`, `Json.asInt`: values of plain types.
* `Json.Fields`: the fields of a record, from an object or from an array.
-/

namespace DbLifecycle

/-! ## Mismatches -/

/-- A value as a message names it. -/
inductive Json.Found where
  | null
  | bool (b : Bool)
  | int (n : Int)
  | float (x : Binary64)
  | text (s : String)
  | sequence
  | map
  deriving DecidableEq, Repr

/-- Why a value does not fit a type. -/
inductive Mismatch where
  /-- A value of another type than the expected one. -/
  | invalidType (found : Json.Found) (expected : String)
  /-- A whole number outside the range of its type. -/
  | outOfRange (n : Int) (expected : String)
  /-- An array that ends before the last field of a record. -/
  | tooShort (length : Nat) (record : String) (fields : Nat)
  /-- An array that goes on after the last field of a record. -/
  | tooLong (length : Nat)
  /-- A field without a member. -/
  | missingField (name : String)
  /-- Two members for one field. -/
  | duplicateField (name : String)
  /-- A value that is none of several alternatives. -/
  | noAlternative (type : String)
  deriving DecidableEq, Repr

namespace Json

/-- How a message names a value. -/
def found : Json → Found
  | .null => .null
  | .bool b => .bool b
  | .num (.int n) => .int n
  | .num (.float x) => .float x
  | .str s => .text s
  | .arr _ => .sequence
  | .obj _ => .map

/-- The words for a value in a message. -/
def Found.words : Found → String
  | .null => "null"
  | .bool b => "boolean `" ++ toString b ++ "`"
  | .int n => "integer `" ++ toString n ++ "`"
  | .float x => "floating point `" ++ x.compact ++ "`"
  | .text s => "string " ++ Text.quoted s
  | .sequence => "sequence"
  | .map => "map"

end Json

namespace Mismatch

/-- How a message calls a record and the number of its fields. -/
def recordWords (record : String) (fields : Nat) : String :=
  "struct " ++ record ++ " with " ++ toString fields
    ++ (if fields = 1 then " element" else " elements")

/-- The wording of a mismatch. -/
def message : Mismatch → String
  | .invalidType found expected => "invalid type: " ++ found.words ++ ", expected " ++ expected
  | .outOfRange n expected => "invalid value: integer `" ++ toString n ++ "`, expected " ++ expected
  | .tooShort n record fields =>
    "invalid length " ++ toString n ++ ", expected " ++ recordWords record fields
  | .tooLong n => "invalid length " ++ toString n ++ ", expected fewer elements in array"
  | .missingField name => "missing field `" ++ name ++ "`"
  | .duplicateField name => "duplicate field `" ++ name ++ "`"
  | .noAlternative type => "data did not match any variant of untagged enum " ++ type

end Mismatch

namespace Json

variable {α : Type}

/-! ## Plain types -/

/-- The mismatch of a value with what was expected. -/
def mismatch (expected : String) (v : Json) : Except Mismatch α :=
  .error (.invalidType v.found expected)

/-- A text. -/
def asText : Json → Except Mismatch String
  | .str s => .ok s
  | v => v.mismatch "a string"

/-- A boolean. -/
def asBool : Json → Except Mismatch Bool
  | .bool b => .ok b
  | v => v.mismatch "a boolean"

/-- A whole number between two bounds. -/
def asInt (min max : Int) (expected : String) : Json → Except Mismatch Int
  | .num (.int n) => if min ≤ n ∧ n ≤ max then .ok n else .error (.outOfRange n expected)
  | v => v.mismatch expected

/-- A whole number of 32 bits with a sign. -/
def asInt32 : Json → Except Mismatch Int :=
  asInt (Text.Integer.minSigned 32) (Text.Integer.maxSigned 32) "i32"

/-- A whole number below a power of two, without a sign. -/
def asUnsigned (bits : Nat) (v : Json) : Except Mismatch Nat :=
  (asInt 0 (Text.Integer.maxUnsigned bits) ("u" ++ toString bits) v).map Int.toNat

/-- A list of values of one type. -/
def asList (item : Json → Except Mismatch α) : Json → Except Mismatch (List α)
  | .arr items => items.mapM item
  | v => v.mismatch "a sequence"

/-- The members of an object, each of one type. -/
def asMembers (item : Json → Except Mismatch α) : Json → Except Mismatch (List (String × α))
  | .obj members => members.mapM fun m => (item m.2).map fun v => (m.1, v)
  | v => v.mismatch "a map"

/-- Null, or a value of a type. -/
def asOption (item : Json → Except Mismatch α) : Json → Except Mismatch (Option α)
  | .null => .ok none
  | v => (item v).map some

/-! ## Records -/

/-- The fields of a record as they were given. -/
inductive Fields where
  | named (members : List (String × Json))
  | listed (items : List Json)

/-- The fields a value gives for a record with a name and a number of fields. -/
def asFields (record : String) : Json → Except Mismatch Fields
  | .obj members => .ok (.named members)
  | .arr items => .ok (.listed items)
  | v => v.mismatch ("struct " ++ record)

/-- A member of an object, if it is there. -/
def given? (name : String) (item : Json → Except Mismatch α) (members : List (String × Json)) :
    Except Mismatch (Option α) :=
  match (members.find? fun m => m.1 = name).map (·.2) with
  | none => .ok none
  | some v => (item v).map some

/-- A field that must be there. -/
def required (name : String) : Option α → Except Mismatch α
  | some v => .ok v
  | none => .error (.missingField name)

/-- The field at a place of an array; a missing one takes the default, if the field has one. -/
def listed (record : String) (fields place : Nat) (item : Json → Except Mismatch α)
    (default? : Option α) (items : List Json) : Except Mismatch α :=
  match items[place]?, default? with
  | some v, _ => item v
  | none, some d => .ok d
  | none, none => .error (.tooShort place record fields)

/-- An array must not have more items than the record has fields. -/
def noneLeft (fields : Nat) (items : List Json) : Except Mismatch Unit :=
  if items.length ≤ fields then .ok () else .error (.tooLong items.length)

end Json

end DbLifecycle
