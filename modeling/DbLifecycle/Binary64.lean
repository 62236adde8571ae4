/-!
# Binary floating point

Numbers of 53 significant bits in exact arithmetic: a value is a whole multiple of a power of two.

* `Binary64`: finite values, infinities and the value that is not a number.
* `Binary64.ofRatio`, `Binary64.ofDecimal`: the nearest value, ties to the even mantissa.
* `Binary64.mul`, `Binary64.div`: products and quotients, rounded in the same way.
* `Binary64.shortest`: the fewest decimal digits that read back, the nearest of those.
* `Binary64.positional`, `Binary64.pointedText`, `Binary64.compact`: ways of writing these digits.
* `Binary64.toNat`: rounding to a whole number, halves away from zero.
-/

namespace DbLifecycle

/-- A double: `mantissa * 2 ^ exponent` with a sign, an infinity, or not a number. -/
inductive Binary64 where
  | finite (negative : Bool) (mantissa : Nat) (exponent : Int)
  | infinite (negative : Bool)
  | nan
  deriving DecidableEq, Repr, Inhabited

namespace Binary64

/-! ## Rounding -/

/-- A power of two. -/
def twoTo (n : Nat) : Nat := Nat.pow 2 n

/-- A power of ten. -/
def tenTo (n : Nat) : Nat := Nat.pow 10 n

/-- Zero with a sign. -/
def zero (negative : Bool) : Binary64 := .finite negative 0 (-1074)

/-- The quotient, rounded to nearest, a tie to the even neighbour. -/
def roundDiv (num den : Nat) : Nat :=
  let q := num / den
  let r := 2 * (num % den)
  if den < r ∨ (den = r ∧ q % 2 = 1) then q + 1 else q

/-- The ratio `num / den` divided by `2 ^ e`, as numerator and denominator. -/
def scaled (num den : Nat) (e : Int) : Nat × Nat :=
  if 0 ≤ e then (num, den * twoTo e.toNat) else (num * twoTo (-e).toNat, den)

/-- The double nearest to `num / den`. -/
def ofRatio (negative : Bool) (num den : Nat) : Binary64 :=
  if num = 0 then zero negative
  else
    let guess : Int := max (-1074) ((num.log2 : Int) - den.log2 - 53)
    let (n, d) := scaled num den guess
    let e := if n / d < twoTo 53 then guess else guess + 1
    let (n, d) := scaled num den e
    let m := roundDiv n d
    let (m, e) := if m = twoTo 53 then (twoTo 52, e + 1) else (m, e)
    if 971 < e then .infinite negative else .finite negative m e

/-- The double nearest to `digits * 10 ^ exponent`. Numbers far outside the range of doubles are
decided by their magnitude alone. -/
def ofDecimal (negative : Bool) (digits : Nat) (exponent : Int) : Binary64 :=
  if digits = 0 then zero negative
  else if 400 < exponent then .infinite negative
  else if exponent + (Nat.toDigits 10 digits).length < -400 then zero negative
  else if 0 ≤ exponent then ofRatio negative (digits * tenTo exponent.toNat) 1
  else ofRatio negative digits (tenTo (-exponent).toNat)

/-- The value of an integer. -/
def ofInt (n : Int) : Binary64 := ofRatio (decide (n < 0)) n.natAbs 1

/-! ## Products and quotients -/

/-- The magnitude as a ratio. -/
def ratio (mantissa : Nat) (exponent : Int) : Nat × Nat :=
  if 0 ≤ exponent then (mantissa * twoTo exponent.toNat, 1) else (mantissa, twoTo (-exponent).toNat)

/-- The double nearest to a finite value times `num / den`; other values stay as they are. -/
def times (num den : Nat) : Binary64 → Binary64
  | .finite negative m e => ofRatio negative ((ratio m e).1 * num) ((ratio m e).2 * den)
  | x => x

/-- A value times another one, which must be finite and positive. -/
def mul (x y : Binary64) : Binary64 :=
  match y with
  | .finite _ m e => x.times (ratio m e).1 (ratio m e).2
  | y => y

/-- A value divided by another one, which must be finite and positive. -/
def div (x y : Binary64) : Binary64 :=
  match y with
  | .finite _ m e => x.times (ratio m e).2 (ratio m e).1
  | y => y

/-- The double nearest to a power of ten. -/
def tenPow (k : Nat) : Binary64 := ofDecimal false 1 k

/-! ## Shortest decimals -/

/-- The place of the point before the first digit: the least `k` with `num / den < 10 ^ k`. -/
def pointPlace (num den : Nat) : Int :=
  if den ≤ num then (Nat.toDigits 10 (num / den)).length
  else
    let l : Nat := (Nat.toDigits 10 (den / num)).length
    if den ≤ num * tenTo (l - 1) then 2 - (l : Int) else 1 - (l : Int)

/-- The neighbours of `num / den` on the grid of multiples of `10 ^ k`, the nearer one first. -/
def gridNeighbours (num den : Nat) (k : Int) : List Nat :=
  let (n, d) := if 0 ≤ k then (num, den * tenTo k.toNat) else (num * tenTo (-k).toNat, den)
  let q := n / d
  let r := 2 * (n % d)
  if d < r ∨ (d = r ∧ q % 2 = 1) then [q + 1, q] else [q, q + 1]

/-- Digits and exponent of the shortest decimal that rounds to the magnitude `mantissa * 2 ^
exponent`, and among those of that length the nearest. -/
def shortest (mantissa : Nat) (exponent : Int) : Nat × Int :=
  if mantissa = 0 then (0, 0)
  else
    let (num, den) := ratio mantissa exponent
    let place := pointPlace num den
    let hits := (List.range 17).filterMap fun i =>
      let k := place - (i + 1 : Nat)
      ((gridNeighbours num den k).find? fun d =>
        ofDecimal false d k = .finite false mantissa exponent).map fun d =>
          if d % 10 = 0 then (d / 10, k + 1) else (d, k)
    hits.headD (0, 0)

/-! ## Written forms -/

private def signText (negative : Bool) : String := if negative then "-" else ""

/-- Digits with a point before the last `-k` of them, or `k` zeros after them. -/
def pointed (digits : List Char) (k : Int) : List Char :=
  if 0 ≤ k then digits ++ List.replicate k.toNat '0'
  else
    let places := (-k).toNat
    if digits.length ≤ places then
      '0' :: '.' :: List.replicate (places - digits.length) '0' ++ digits
    else digits.take (digits.length - places) ++ '.' :: digits.drop (digits.length - places)

/-- All digits written out, without an exponent and without a point after a whole number. -/
def positional : Binary64 → String
  | .nan => "NaN"
  | .infinite negative => signText negative ++ "inf"
  | .finite negative m e =>
    let (d, k) := shortest m e
    signText negative ++ String.ofList (pointed (Nat.toDigits 10 d) k)

/-- All digits written out, with `.0` after a whole number. -/
def pointedText (x : Binary64) : String :=
  let text := x.positional
  if text.toList.contains '.' then text else text ++ ".0"

/-- The exponent of the scientific form: a sign and at least two digits. -/
def exponentText (k : Int) : List Char :=
  let digits := Nat.toDigits 10 k.natAbs
  (if k < 0 then '-' else '+') :: List.replicate (2 - digits.length) '0' ++ digits

/-- Digits written out for points up to the sixteenth place and down to four places before the
first digit, with `.0` after a whole number; otherwise in scientific form. -/
def compact : Binary64 → String
  | .nan => "NaN"
  | .infinite negative => signText negative ++ "inf"
  | .finite negative m e =>
    let (d, k) := shortest m e
    let digits := Nat.toDigits 10 d
    let place := k + digits.length
    signText negative ++
      if m = 0 then "0.0"
      else if 0 ≤ k ∧ place ≤ 16 then String.ofList (pointed digits k) ++ ".0"
      else if -5 < place ∧ place ≤ 16 then String.ofList (pointed digits k)
      else
        let head := if digits.length = 1 then digits else pointed digits (1 - (digits.length : Int))
        String.ofList (head ++ 'e' :: exponentText (place - 1))

/-! ## Whole numbers -/

/-- Whether the value is a zero of either sign. -/
def isZero : Binary64 → Bool
  | .finite _ m _ => m == 0
  | _ => false

/-- The magnitude rounded to a whole number, halves upward. -/
def roundMagnitude (m : Nat) (e : Int) : Nat :=
  let (num, den) := ratio m e
  (2 * num + den) / (2 * den)

/-- The nearest whole number, halves away from zero, forced into `0 .. max`; what is not a number
counts as zero. -/
def toNat (max : Nat) : Binary64 → Nat
  | .nan => 0
  | .infinite negative => if negative then 0 else max
  | .finite negative m e => if negative then 0 else min max (roundMagnitude m e)

end Binary64

end DbLifecycle
