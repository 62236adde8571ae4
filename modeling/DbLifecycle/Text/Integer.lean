/-!
# Integers in text

Whole numbers as they are typed: decimal digits after an optional sign, within given bounds.

* `Integer.maxUnsigned`, `Integer.minSigned`, `Integer.maxSigned`: the bounds of numbers of some
  bits.
* `Integer.natOfDigits?`: a non-empty run of ASCII digits.
* `Integer.unsigned?`: an optional plus sign and digits, at most a given number.
* `Integer.unsigned?_eq_some_iff`: the texts that are read as a number.
* `Integer.signed?`: an optional sign and digits, between two given numbers.
* `Integer.Fault`, `Integer.read`: the same as `unsigned?`, with the reason where there is none.
* `trim`: a text without the blanks at its two ends.
-/

namespace DbLifecycle.Text

/-- The characters of the property White_Space. -/
def isBlank (c : Char) : Bool :=
  let n := c.toNat
  (0x9 ≤ n && n ≤ 0xd) || n == 0x20 || n == 0x85 || n == 0xa0 || n == 0x1680
    || (0x2000 ≤ n && n ≤ 0x200a) || n == 0x2028 || n == 0x2029 || n == 0x202f || n == 0x205f
    || n == 0x3000

/-- Without the blanks at both ends. -/
def trim (cs : List Char) : List Char :=
  ((cs.dropWhile isBlank).reverse.dropWhile isBlank).reverse

namespace Integer

/-! ## Bounds -/

/-- The largest number of some bits without a sign. -/
def maxUnsigned (bits : Nat) : Nat := Nat.pow 2 bits - 1

/-- The largest number of some bits, one of which is the sign. -/
def maxSigned (bits : Nat) : Int := maxUnsigned (bits - 1)

/-- The smallest number of some bits, one of which is the sign. -/
def minSigned (bits : Nat) : Int := -maxSigned bits - 1

/-- A number, if 64 bits hold it together with its sign. -/
def int64? (n : Int) : Option Int :=
  if minSigned 64 ≤ n ∧ n ≤ maxSigned 64 then some n else none

/-! ## Digits -/

/-- The value of a decimal digit. -/
def digitValue (c : Char) : Nat := c.toNat - '0'.toNat

/-- The number a list of digits writes. -/
def ofDigits (cs : List Char) : Nat := cs.foldl (fun n c => 10 * n + digitValue c) 0

/-- The number a non-empty list of digits writes. -/
def natOfDigits? (cs : List Char) : Option Nat :=
  if cs.isEmpty || !cs.all Char.isDigit then none else some (ofDigits cs)

/-- A number of at most `max`, with an optional plus sign. -/
def unsigned? (max : Nat) (cs : List Char) : Option Nat := do
  let n ← natOfDigits? (match cs with | '+' :: r => r | _ => cs)
  if n ≤ max then some n else none

/-- A number between `min` and `max`, with an optional sign. -/
def signed? (min max : Int) (cs : List Char) : Option Int := do
  let n ← match cs with
    | '-' :: r => (natOfDigits? r).map fun n => -(n : Int)
    | '+' :: r => (natOfDigits? r).map Int.ofNat
    | _ => (natOfDigits? cs).map Int.ofNat
  if min ≤ n ∧ n ≤ max then some n else none

/-! ## Reasons -/

/-- Why a text is not a number of some size. -/
inductive Fault where
  | empty
  | notADigit
  | tooLarge
  deriving DecidableEq, Repr

/-- The wording of a fault. -/
def Fault.message : Fault → String
  | .empty => "cannot parse integer from empty string"
  | .notADigit => "invalid digit found in string"
  | .tooLarge => "number too large to fit in target type"

/-- The number that digits write after those that wrote `n`; the first character that makes it none
or too large decides. -/
def readDigits (max n : Nat) : List Char → Except Fault Nat
  | [] => .ok n
  | c :: r =>
    if !c.isDigit then .error .notADigit
    else
      let m := 10 * n + digitValue c
      if max < m then .error .tooLarge else readDigits max m r

/-- A number of at most `max`, with an optional plus sign, or why there is none. -/
def read (max : Nat) : List Char → Except Fault Nat
  | [] => .error .empty
  | ['+'] => .error .notADigit
  | '+' :: r => readDigits max 0 r
  | cs => readDigits max 0 cs

/-! ## What is read -/

theorem natOfDigits?_eq_some_iff {cs : List Char} {n : Nat} :
    natOfDigits? cs = some n ↔ cs ≠ [] ∧ (∀ c ∈ cs, c.isDigit = true) ∧ ofDigits cs = n := by
  unfold natOfDigits?
  split
  · rename_i h
    refine iff_of_false (by simp) fun ⟨hne, hall, _⟩ => ?_
    rw [List.all_eq_true.mpr hall] at h
    simp [hne] at h
  · rename_i h
    simp only [Bool.or_eq_true, List.isEmpty_iff, Bool.not_eq_true', not_or, Bool.not_eq_false,
      List.all_eq_true] at h
    rw [Option.some.injEq]
    exact ⟨fun hn => ⟨h.1, h.2, hn⟩, fun hn => hn.2.2⟩

/-- The digits after a sign are what is read. -/
theorem digits_of_sign {sign digits : List Char} (hsign : sign = [] ∨ sign = ['+'])
    (hdigits : ∀ c ∈ digits, c.isDigit = true) :
    (match sign ++ digits with | '+' :: r => r | _ => sign ++ digits) = digits := by
  rcases hsign with rfl | rfl
  · rw [List.nil_append]
    split
    · exact absurd (hdigits '+' (by simp)) (by decide)
    · rfl
  · rfl

/-- The numbers that are read: digits after a plus sign or none. -/
theorem unsigned?_eq_some_iff {max n : Nat} {cs : List Char} :
    unsigned? max cs = some n ↔ n ≤ max ∧ ∃ sign digits, cs = sign ++ digits ∧
      (sign = [] ∨ sign = ['+']) ∧ digits ≠ [] ∧ (∀ c ∈ digits, c.isDigit = true) ∧
      ofDigits digits = n := by
  have hread : unsigned? max cs = some n ↔
      n ≤ max ∧ natOfDigits? (match cs with | '+' :: r => r | _ => cs) = some n := by
    simp only [unsigned?, Option.bind_eq_bind, Option.bind_eq_some_iff]
    constructor
    · rintro ⟨m, hm, h⟩
      split at h
      · cases h
        exact ⟨‹_›, hm⟩
      · cases h
    · rintro ⟨hle, hn⟩
      exact ⟨n, hn, if_pos hle⟩
  rw [hread, natOfDigits?_eq_some_iff]
  refine and_congr_right fun _ => ⟨fun h => ?_, ?_⟩
  · split at h
    · rename_i r
      exact ⟨['+'], r, rfl, .inr rfl, h⟩
    · exact ⟨[], cs, rfl, .inl rfl, h⟩
  · rintro ⟨sign, digits, rfl, hsign, hne, hdigits, hn⟩
    rw [digits_of_sign hsign hdigits]
    exact ⟨hne, hdigits, hn⟩

theorem le_of_unsigned? {max n : Nat} {cs : List Char} (h : unsigned? max cs = some n) :
    n ≤ max :=
  (unsigned?_eq_some_iff.mp h).1

theorem bounds_of_signed? {min max n : Int} {cs : List Char} (h : signed? min max cs = some n) :
    min ≤ n ∧ n ≤ max := by
  have hread : ∀ {o : Option Int},
      (o.bind fun m => if min ≤ m ∧ m ≤ max then some m else none) = some n →
      min ≤ n ∧ n ≤ max := by
    intro o ho
    obtain ⟨m, -, hm⟩ := Option.bind_eq_some_iff.mp ho
    split at hm
    · cases hm
      assumption
    · cases hm
  unfold signed? at h
  split at h <;> exact hread h

end Integer

end DbLifecycle.Text
