import DbLifecycle.Text.Decimal
import DbLifecycle.Text.Hexadecimal
import DbLifecycle.Yaml.Tag

/-!
# YAML scalars

* `Scalar`: null, booleans, whole numbers, other numbers and texts.
* `Scalar.ofPlain`: what a text without quotes means.
* `Scalar.ofTagged?`: what it means with a tag; a text that does not fit its tag has no meaning.
-/

namespace DbLifecycle.Yaml

/-- A scalar. A number that is not whole keeps the way it is written. -/
inductive Scalar where
  | null
  | bool (b : Bool)
  | int (n : Int)
  | real (text : String)
  | text (s : String)
  deriving DecidableEq, Repr

/-- A whole number of 64 bits in a base, with an optional sign. -/
def int64? (base : Nat) (cs : List Char) : Option Int :=
  let digits (cs : List Char) : Option Nat :=
    if cs.isEmpty then none
    else cs.foldlM (fun n c => (Text.hexValue? c).bind fun d =>
      if d < base then some (base * n + d) else none) 0
  let n? : Option Int := match cs with
    | '-' :: r => (digits r).map fun n => -(n : Int)
    | '+' :: r => (digits r).map Int.ofNat
    | _ => (digits cs).map Int.ofNat
  n?.bind Text.Integer.int64?

/-- A number with a mark of its base or a plus sign in front. -/
def markedInt? : List Char → Option Int
  | '0' :: 'x' :: r => int64? 16 r
  | '0' :: 'o' :: r => int64? 8 r
  | '+' :: r => int64? 10 r
  | _ => none

/-- The words for infinities and for what is not a number. -/
def realWords : List String :=
  [".inf", ".Inf", ".INF", "+.inf", "+.Inf", "+.INF", "-.inf", "-.Inf", "-.INF",
    ".nan", ".NaN", ".NAN"]

/-- Whether a text is a number that need not be whole. -/
def isReal (text : String) : Bool :=
  text ∈ realWords || (Text.Decimal.parse? text.toList).isSome

/-- A boolean in small or capital letters, or with a capital one in front. -/
def bool? (text : String) : Option Bool :=
  if text ∈ ["true", "True", "TRUE"] then some true
  else if text ∈ ["false", "False", "FALSE"] then some false
  else none

namespace Scalar

/-- What a text without quotes means. -/
def ofPlain (text : String) : Scalar :=
  match markedInt? text.toList with
  | some n => int n
  | none =>
    if text ∈ ["", "~", "null"] then null
    else
      match bool? text, int64? 10 text.toList with
      | some b, _ => bool b
      | none, some n => int n
      | none, none => if isReal text then real text else .text text

/-- The handle of the tags that ask for a kind of scalar. -/
def coreHandle : String := "tag:yaml.org,2002:"

/-- What a text without quotes means with a tag, whose handle has been replaced by what it stands
for. -/
def ofTagged? (tag : Tag) (text : String) : Option Scalar :=
  if tag.handle ≠ coreHandle then some (.text text)
  else
    match tag.suffix with
    | "bool" => (bool? text).map bool
    | "int" => (int64? 10 text.toList).map int
    | "float" => if isReal text then some (real text) else none
    | "null" => if text ∈ ["~", "null"] then some null else none
    | _ => some (.text text)

end Scalar

end DbLifecycle.Yaml
