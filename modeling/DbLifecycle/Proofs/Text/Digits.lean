import Mathlib.Data.List.TakeWhile
import DbLifecycle.Text.Hexadecimal
import DbLifecycle.Text.Integer

/-!
# Digits of a number

What the digits that a number is written with are read as.

* `exists_digitChar_of_mem`: the digits of a number are those of smaller ones than its base.
* `hexValue?_digitChar`, `Integer.ofDigits_toDigits`: reading undoes writing.
* `toDigits_eq_cons`: only the number zero begins with a zero.
-/

namespace DbLifecycle.Text

theorem hexValue?_digitChar {n : Nat} (h : n < 16) : hexValue? n.digitChar = some n := by
  revert n
  decide

theorem exists_digitChar_of_mem {b : Nat} (hb : 1 < b) {p : Nat} {c : Char}
    (h : c ∈ Nat.toDigits b p) : ∃ n < b, c = n.digitChar := by
  induction p using Nat.strongRecOn with
  | ind p ih =>
    rw [Nat.toDigits_eq_if hb] at h
    split at h
    · exact ⟨p, ‹_›, List.mem_singleton.mp h⟩
    · rename_i hp
      rcases List.mem_append.mp h with h | h
      · exact ih (p / b) (Nat.div_lt_self (by omega) hb) h
      · exact ⟨p % b, Nat.mod_lt _ (by omega), List.mem_singleton.mp h⟩

theorem isDigit_of_mem_toDigits {n : Nat} {c : Char} (h : c ∈ Nat.toDigits 10 n) :
    c.isDigit = true :=
  Nat.isDigit_of_mem_toDigits (by decide) (by decide) h

/-- The first digit of a number is no zero, unless it is the only one. -/
theorem toDigits_eq_cons (n : Nat) :
    ∃ c r, Nat.toDigits 10 n = c :: r ∧ (c = '0' → r = []) := by
  induction n using Nat.strongRecOn with
  | ind n ih =>
    rw [Nat.toDigits_eq_if (by decide)]
    split
    · exact ⟨_, _, rfl, fun _ => rfl⟩
    · rename_i hn
      obtain ⟨c, r, hcr, hzero⟩ := ih (n / 10) (by omega)
      refine ⟨c, r ++ [(n % 10).digitChar], by rw [hcr, List.cons_append], fun hc => ?_⟩
      -- a single zero in front would be the number zero, and the number in front is not
      rw [hzero hc, hc] at hcr
      by_cases hsmall : n / 10 < 10
      · rw [Nat.toDigits_of_lt_base hsmall, List.cons.injEq] at hcr
        have hnonzero : ∀ m < 10, m ≠ 0 → m.digitChar ≠ '0' := by decide
        exact absurd hcr.1 (hnonzero _ hsmall (by omega))
      · have hlength := congrArg List.length hcr
        rw [Nat.toDigits_eq_if (by decide), if_neg hsmall, List.length_append,
          List.length_singleton, List.length_singleton] at hlength
        have hpos := Nat.length_toDigits_pos (b := 10) (n := n / 10 / 10)
        omega

namespace Integer

/-- The number that decimal digits write. -/
theorem ofDigits_toDigits (n : Nat) : ofDigits (Nat.toDigits 10 n) = n := by
  induction n using Nat.strongRecOn with
  | ind n ih =>
    have hdigit : ∀ m < 10, digitValue m.digitChar = m := by decide
    rw [Nat.toDigits_eq_if (by decide)]
    split
    · rename_i hn
      simp [ofDigits, hdigit n hn]
    · have hrest := ih (n / 10) (by omega)
      rw [ofDigits] at hrest ⊢
      rw [List.foldl_append, hrest, List.foldl_cons, List.foldl_nil, hdigit (n % 10) (by omega)]
      omega

end Integer

end DbLifecycle.Text
