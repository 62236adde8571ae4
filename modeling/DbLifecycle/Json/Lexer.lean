import DbLifecycle.Json.Basic
import DbLifecycle.Text.Hexadecimal
import DbLifecycle.Text.Integer

/-!
# The parts of JSON text

Each function reads one part from the front of the characters and returns what follows it; `none`
means that the text breaks the grammar there.

* `Json.skipBlank`: blanks between parts.
* `Json.stringBody`: a text after its opening quote.
* `Json.number`: a number.
* `Json.keyword`: one of the three words.
-/

namespace DbLifecycle

namespace Json

/-- Whether a character may stand between the parts of a value. -/
def isBlank (c : Char) : Bool := c == ' ' || c == '\t' || c == '\n' || c == '\r'

/-- The characters after leading blanks. -/
def skipBlank (cs : List Char) : List Char := cs.dropWhile isBlank

/-! ## Texts -/

/-- The value of four hexadecimal digits. -/
def hex4? (a b c d : Char) : Option Nat := do
  let a ← Text.hexValue? a
  let b ← Text.hexValue? b
  let c ← Text.hexValue? c
  let d ← Text.hexValue? d
  some (((a * 16 + b) * 16 + c) * 16 + d)

/-- The character a one-letter escape stands for. -/
def simpleEscape? : Char → Option Char
  | '"' => some '"'
  | '\\' => some '\\'
  | '/' => some '/'
  | 'b' => some '\x08'
  | 'f' => some '\x0c'
  | 'n' => some '\n'
  | 'r' => some '\r'
  | 't' => some '\t'
  | _ => none

/-- Whether a unit is the first half of a surrogate pair. -/
def isLead (u : Nat) : Bool := 0xd800 ≤ u && u < 0xdc00

/-- Whether a unit is the second half of a surrogate pair. -/
def isTrail (u : Nat) : Bool := 0xdc00 ≤ u && u < 0xe000

/-- The characters of a text after its opening quote, and what follows its closing quote. Escaped
surrogates must come in pairs, and controls must be escaped. -/
def stringBody : List Char → Option (List Char × List Char)
  | [] => none
  | '"' :: r => some ([], r)
  | '\\' :: 'u' :: a :: b :: c :: d :: r =>
    (hex4? a b c d).bind fun u =>
      if isTrail u then none
      else if isLead u then
        match r with
        | '\\' :: 'u' :: a' :: b' :: c' :: d' :: r' =>
          (hex4? a' b' c' d').bind fun v =>
            if isTrail v then
              (stringBody r').map fun p =>
                (Char.ofNat (0x10000 + (u - 0xd800) * 0x400 + (v - 0xdc00)) :: p.1, p.2)
            else none
        | _ => none
      else (stringBody r).map fun p => (Char.ofNat u :: p.1, p.2)
  | '\\' :: e :: r => (simpleEscape? e).bind fun c => (stringBody r).map fun p => (c :: p.1, p.2)
  | c :: r =>
    if c.toNat < 0x20 ∨ c = '\\' then none
    else (stringBody r).map fun p => (c :: p.1, p.2)

/-! ## Numbers -/

/-- Splits off the leading digits. -/
def spanDigits (cs : List Char) : List Char × List Char :=
  (cs.takeWhile Char.isDigit, cs.dropWhile Char.isDigit)

/-- The digits before the point: a single zero, or a run that does not start with one. -/
def wholeDigits (cs : List Char) : Option (List Char × List Char) :=
  match spanDigits cs with
  | ([], _) => none
  | ('0' :: _ :: _, _) => none
  | p => some p

/-- The digits after the point, if there is a point. -/
def fraction (cs : List Char) : Option (List Char × List Char) :=
  match cs with
  | '.' :: r =>
    match spanDigits r with
    | ([], _) => none
    | p => some p
  | _ => some ([], cs)

/-- The exponent, if there is one. -/
def exponent (cs : List Char) : Option (Option Int × List Char) :=
  let digits (negative : Bool) (r : List Char) : Option (Option Int × List Char) :=
    match spanDigits r with
    | ([], _) => none
    | (ds, r') =>
      let n : Int := Text.Integer.ofDigits ds
      some (some (if negative then -n else n), r')
  match cs with
  | [] => some (none, [])
  | c :: r =>
    if c = 'e' ∨ c = 'E' then
      match r with
      | '-' :: r => digits true r
      | '+' :: r => digits false r
      | _ => digits false r
    else some (none, cs)

/-- The leading digits of a number, taken while they stay below `2 ^ 64`, after those that a number
has been read from before: the number and the digits that are left. -/
def significand (n : Nat) : List Char → Nat × List Char
  | [] => (n, [])
  | c :: r =>
    let next := 10 * n + Text.Integer.digitValue c
    if next ≤ Text.Integer.maxUnsigned 64 then significand next r else (n, c :: r)

/-- A double scaled by a power of ten, whose size is that of a table of doubles up to `10 ^ 308`; so
the result is rounded up to three times. Numbers must not become infinite. -/
def scaled (x : Binary64) (exponent : Int) : Option Binary64 :=
  let k := exponent.natAbs
  if 0 ≤ exponent then
    if x.isZero then some x
    else if 308 < k then none
    else
      match x.mul (.tenPow k) with
      | .infinite _ => none
      | y => some y
  else if k ≤ 308 then some (x.div (.tenPow k))
  else if k ≤ 616 then some ((x.div (.tenPow 308)).div (.tenPow (k - 308)))
  else some ((x.div (.tenPow 308)).div (.tenPow 308))

/-- The value of a number's parts: a whole number where it has neither point nor exponent and fits
64 bits, otherwise a double, which must be finite. A minus sign before a zero makes a double. The
digits of a double count as far as they stay below `2 ^ 64`: of those behind, the ones before the
point only move it. -/
def numberValue (negative : Bool) (whole frac : List Char) (exp : Option Int) : Option Number :=
  let (n, unread) := significand 0 whole
  let small := n == 0 || -(n : Int) < Text.Integer.minSigned 64
  if unread.isEmpty ∧ frac.isEmpty ∧ exp.isNone ∧ !(negative && small) then
    some (.int (if negative then -n else n))
  else
    let (m, ignored) := significand n frac
    let places : Int := frac.length - ignored.length
    let exponent := exp.getD 0 + unread.length - places
    (scaled (.ofRatio negative m 1) exponent).map .float

/-- A number. -/
def number (cs : List Char) : Option (Number × List Char) := do
  let (negative, cs) := match cs with
    | '-' :: r => (true, r)
    | _ => (false, cs)
  let (whole, cs) ← wholeDigits cs
  let (frac, cs) ← fraction cs
  let (exp, cs) ← exponent cs
  let n ← numberValue negative whole frac exp
  some (n, cs)

/-! ## Words -/

/-- The characters after a word that the text must start with. -/
def keyword (word cs : List Char) : Option (List Char) :=
  if word.isPrefixOf cs then some (cs.drop word.length) else none

end Json

end DbLifecycle
