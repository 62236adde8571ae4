import DbLifecycle.Json.Decode

/-!
# Configuration values

The values of configuration files and of the environment, each with the place it comes from.

* `Value`: plain values, lists and tables.
* `Value.Error`: why a value does not fit, with the key it stands under.
* `Value.Error.message`: its wording.
-/

namespace DbLifecycle

/-- Where a value was written. -/
inductive Value.Origin where
  | file (path : String)
  | environment
  deriving DecidableEq, Repr

/-- The words for a place. -/
def Value.Origin.words : Origin → String
  | .file path => path
  | .environment => "the environment"

/-- A value without parts. -/
inductive Value.Scalar where
  | null
  | bool (b : Bool)
  /-- A whole number of 64 bits, with a sign or without. -/
  | int (n : Int)
  | float (x : Binary64)
  | text (s : String)
  deriving DecidableEq, Repr, Inhabited

/-- A configuration value. Values that the program itself supplies have no origin, nor have tables
that are put together from several places. -/
inductive Value where
  | scalar (origin : Option Value.Origin) (v : Value.Scalar)
  | list (origin : Option Value.Origin) (items : List Value)
  | table (origin : Option Value.Origin) (members : List (String × Value))
  deriving Repr, Inhabited

namespace Value

/-! ## Errors -/

/-- What an error found in place of the expected value. -/
inductive Found where
  | scalar (v : Scalar)
  | list
  | table
  deriving DecidableEq, Repr

/-- One step of the way to a value. -/
inductive Step where
  | key (name : String)
  | index (n : Nat)
  deriving DecidableEq, Repr

/-- What is wrong with a value. -/
inductive Problem where
  /-- A plain value was asked for and this one cannot be converted. -/
  | inconvertible (found : Found) (expected : String) (origin : Option Origin)
  /-- A value with parts was asked for, or the other way round. -/
  | wrongShape (found : Found) (expected : String)
  /-- A list that ends before the last field of a record. -/
  | tooShort (length : Nat) (record : String) (fields : Nat)
  /-- A whole number that is too large for its type. -/
  | tooLarge (n : Nat) (expected : String)
  /-- A value that is none of several alternatives. -/
  | noAlternative (type : String)
  /-- A table without a key. -/
  | missing
  deriving DecidableEq, Repr

/-- A problem and the way to the value that has it. -/
structure Error where
  problem : Problem
  path : List Step
  deriving DecidableEq, Repr

/-- Names the step that led to a value with an error. -/
def Error.under (step : Step) (e : Error) : Error := { e with path := step :: e.path }

/-- A further step of a written way: a point and a name, or an index in brackets. -/
def Step.text : Step → String
  | .key name => "." ++ name
  | .index n => "[" ++ toString n ++ "]"

/-- The written form of a way. No point stands before its first name. -/
def pathText : List Step → String
  | [] => ""
  | .key name :: r => name ++ String.join (r.map Step.text)
  | steps => String.join (steps.map Step.text)

/-- The words for a value that cannot be converted. -/
def Found.words : Found → String
  | .scalar .null => "unit value"
  | .scalar (.bool b) => "boolean `" ++ toString b ++ "`"
  | .scalar (.int n) =>
    (if n ≤ Text.Integer.maxSigned 64 then "64-bit integer `" else "64-bit unsigned integer `") ++
      toString n ++ "`"
  | .scalar (.float x) => "floating point `" ++ x.positional ++ "`"
  | .scalar (.text s) => "string " ++ Text.quoted s
  | .list => "sequence"
  | .table => "map"

/-- The words for a value of the wrong shape. -/
def Found.shapeWords : Found → String
  | .scalar (.int n) => "integer `" ++ toString n ++ "`"
  | .scalar (.float x) => "floating point `" ++ x.pointedText ++ "`"
  | found => found.words

/-- The wording of an error. -/
def Error.message (e : Error) : String :=
  let key := if e.path.isEmpty then "" else " for key `" ++ pathText e.path ++ "`"
  match e.problem with
  | .inconvertible found expected origin =>
    "invalid type: " ++ found.words ++ ", expected " ++ expected ++ key ++
      (match origin with
      | some place => " in " ++ place.words
      | none => "")
  | .wrongShape found expected =>
    "invalid type: " ++ found.shapeWords ++ ", expected " ++ expected ++ key
  | .tooShort n record fields =>
    "invalid length " ++ toString n ++ ", expected " ++ Mismatch.recordWords record fields ++ key
  | .tooLarge n expected =>
    "invalid type: 64-bit unsigned integer `" ++ toString n ++ "`, expected " ++ expected ++ key
  | .noAlternative type =>
    "data did not match any variant of untagged enum " ++ type ++ key
  | .missing => "missing configuration field " ++ Text.quoted (pathText e.path)

end Value

end DbLifecycle
