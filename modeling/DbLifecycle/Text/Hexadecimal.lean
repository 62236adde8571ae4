/-!
# Hexadecimal digits

* `Text.hexValue?`: the value of a digit of either case.
* `Text.hexDigit`: the upper-case digit of a value.
* `Text.hexValue?_hexDigit`: reading undoes writing.
-/

namespace DbLifecycle.Text

/-- The value of a hexadecimal digit of either case. -/
def hexValue? (c : Char) : Option Nat :=
  let n := c.toNat
  if 0x30 ≤ n ∧ n ≤ 0x39 then some (n - 0x30)
  else if 0x41 ≤ n ∧ n ≤ 0x46 then some (n - 0x37)
  else if 0x61 ≤ n ∧ n ≤ 0x66 then some (n - 0x57)
  else none

/-- Upper-case hexadecimal digits. -/
def hexDigit (n : Nat) : Char := if n < 10 then Char.ofNat (0x30 + n) else Char.ofNat (0x37 + n)

theorem hexValue?_hexDigit {n : Nat} (h : n < 16) : hexValue? (hexDigit n) = some n := by
  revert n; decide

end DbLifecycle.Text
