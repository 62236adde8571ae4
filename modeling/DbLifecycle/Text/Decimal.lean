import DbLifecycle.Binary64
import DbLifecycle.Text.Integer

/-!
# Decimal fractions in text

* `Decimal.parse?`: a number with an optional sign, digits with an optional point among them, and an
  optional exponent, as the nearest double.
-/

namespace DbLifecycle.Text.Decimal

/-- The exponent after the digits, if there is one; nothing may follow it. -/
def exponent? : List Char → Option Int
  | [] => some 0
  | c :: r =>
    if c = 'e' ∨ c = 'E' then
      match r with
      | '-' :: ds => (Integer.natOfDigits? ds).map fun n => -(n : Int)
      | '+' :: ds => (Integer.natOfDigits? ds).map Int.ofNat
      | ds => (Integer.natOfDigits? ds).map Int.ofNat
    else none

/-- A number without a sign. -/
def magnitude? (negative : Bool) (cs : List Char) : Option Binary64 :=
  let whole := cs.takeWhile Char.isDigit
  let rest := cs.dropWhile Char.isDigit
  let frac := match rest with
    | '.' :: r => r.takeWhile Char.isDigit
    | _ => []
  let rest := match rest with
    | '.' :: r => r.dropWhile Char.isDigit
    | _ => rest
  if whole.isEmpty ∧ frac.isEmpty then none
  else (exponent? rest).map fun e =>
    Binary64.ofDecimal negative (Integer.ofDigits (whole ++ frac)) (e - frac.length)

/-- A number with an optional sign. -/
def parse? : List Char → Option Binary64
  | '-' :: r => magnitude? true r
  | '+' :: r => magnitude? false r
  | cs => magnitude? false cs

end DbLifecycle.Text.Decimal
