import DbLifecycle.Text.Hexadecimal
import DbLifecycle.Text.Integer

/-!
# Addresses in brackets

The eight pieces of an IPv6 address.

* `Url.Address.parse?`: reads pieces of up to four hexadecimal digits between colons, one run of
  zeros written as two colons, and the last two pieces possibly as four decimal numbers.
* `Url.Address.chars`: writes the pieces in lower-case hexadecimal, the first longest run of at
  least two zeros as two colons.
-/

namespace DbLifecycle

namespace Url.Address

/-- The value of up to `n` leading hexadecimal digits, how many there were, and the rest. -/
def hexRun : Nat → List Char → Nat → Nat × Nat × List Char
  | 0, cs, acc => (acc, 0, cs)
  | _, [], acc => (acc, 0, [])
  | n + 1, c :: r, acc =>
    match Text.hexValue? c with
    | some v =>
      let (value, length, rest) := hexRun n r (16 * acc + v)
      (value, length + 1, rest)
    | none => (acc, 0, c :: r)

/-- A number up to 255 without leading zeros. -/
def octet? (cs : List Char) : Option Nat :=
  if cs.isEmpty || 3 < cs.length || !cs.all Char.isDigit then none
  else if cs.head? = some '0' ∧ 1 < cs.length then none
  else
    let n := Text.Integer.ofDigits cs
    if n ≤ 255 then some n else none

/-- Four numbers between points, as two pieces. -/
def dotted? (cs : List Char) : Option (List Nat) :=
  match cs.splitOn '.' with
  | [a, b, c, d] => do
    let a ← octet? a
    let b ← octet? b
    let c ← octet? c
    let d ← octet? d
    some [256 * a + b, 256 * c + d]
  | _ => none

/-- Eight pieces: those before the run of zeros, the zeros, those after it. -/
def fill (pieces : List Nat) : Option Nat → Option (List Nat)
  | none => if pieces.length = 8 then some pieces else none
  | some gap =>
    some (pieces.take gap ++ List.replicate (8 - pieces.length) 0 ++ pieces.drop gap)

/-- The number of places taken; a run of zeros takes at least one. -/
def position (done : List Nat) (gap : Option Nat) : Nat :=
  done.length + if gap.isSome then 1 else 0

/-- Reads the pieces from a place where one may start; `gap` is the number of pieces before the two
colons, once they have been read. -/
def pieces : Nat → List Char → List Nat → Option Nat → Option (List Nat)
  | 0, _, _, _ => none
  | _, [], done, gap => fill done gap
  | fuel + 1, c :: r, done, gap =>
    if 8 ≤ position done gap then none
    else if c = ':' then
      if gap.isSome then none else pieces fuel r done (some done.length)
    else
      let (value, length, rest) := hexRun 4 (c :: r) 0
      match rest with
      | [] => if length = 0 then none else fill (done ++ [value]) gap
      | '.' :: _ =>
        if length = 0 ∨ 6 < position done gap then none
        else (dotted? (c :: r)).bind fun two => fill (done ++ two) gap
      | ':' :: r' => if length = 0 ∨ r'.isEmpty then none else pieces fuel r' (done ++ [value]) gap
      | _ => none

/-- The pieces of an address. -/
def parse? (cs : List Char) : Option (List Nat) :=
  match cs with
  | ':' :: ':' :: r => pieces (r.length + 1) r [] (some 0)
  | ':' :: _ => none
  | [] => none
  | _ => pieces (cs.length + 1) cs [] none

/-- The length of the run of zeros at the front. -/
def zeros (ps : List Nat) : Nat := (ps.takeWhile (· == 0)).length

/-- Start and length of the first longest run of at least two zeros. -/
def longestRun (ps : List Nat) : Option (Nat × Nat) :=
  (List.range ps.length).foldl (fun best i =>
    let n := zeros (ps.drop i)
    if 2 ≤ n ∧ (best.map (·.2)).getD 0 < n then some (i, n) else best) none

/-- Pieces with colons between them. -/
def joined (ps : List Nat) : List Char := [':'].intercalate (ps.map (Nat.toDigits 16))

/-- The written form of an address. -/
def chars (ps : List Nat) : List Char :=
  match longestRun ps with
  | none => joined ps
  | some (start, length) =>
    joined (ps.take start) ++ ':' :: ':' :: joined (ps.drop (start + length))

end Url.Address

end DbLifecycle
