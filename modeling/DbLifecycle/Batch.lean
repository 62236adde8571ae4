/-!
# Batches

A list handed out in batches. With a batch size every batch is full except perhaps the last one,
and an empty list gives no batch; without a size the whole list is one batch, also an empty one.

* `Batches`: what is still to be handed out.
* `Batches.ofList`: the start; a size of zero counts as no size.
* `Batches.next`: the next batch and what remains.
* `Batches.count`: how many batches are left.
* `Batches.count?`: the same in words of 64 bits, step by step.
* `Batches.take`, `Batches.toList`: the first batches, and all of them.
-/

namespace DbLifecycle

/-- The items still to be handed out, and how. -/
inductive Batches (α : Type) where
  /-- All items in one batch. -/
  | whole (items : List α)
  /-- The one batch has been handed out. -/
  | spent
  /-- Batches of a positive size. -/
  | sized (size : Nat) (size_pos : 0 < size) (items : List α)

namespace Batches

variable {α : Type}

/-- The batches of a list. -/
def ofList (items : List α) : Option Nat → Batches α
  | none => whole items
  | some size => if h : 0 < size then sized size h items else whole items

/-- The items not yet handed out. -/
def remaining : Batches α → List α
  | whole items => items
  | spent => []
  | sized _ _ items => items

/-- The next batch, if there is one, and what remains after it. -/
def next : Batches α → Option (List α) × Batches α
  | whole items => (some items, spent)
  | spent => (none, spent)
  | sized size h [] => (none, sized size h [])
  | sized size h (a :: r) => (some ((a :: r).take size), sized size h ((a :: r).drop size))

/-- The number of batches left. -/
def count : Batches α → Nat
  | whole _ => 1
  | spent => 0
  | sized size _ items => (items.length + size - 1) / size

/-- A number, if a word of 64 bits can hold it. -/
def word? (n : Nat) : Option Nat := if n < UInt64.size then some n else none

/-- Division rounded up, in words: the quotient, and one more if something is left over. Dividing by
zero gives nothing, and neither does a sum that no word can hold. -/
def roundedUp? (n size : Nat) : Option Nat :=
  if size = 0 then none
  else if n % size = 0 then word? (n / size)
  else word? (n / size + 1)

/-- The number of batches left, in words. -/
def count? : Batches α → Option Nat
  | whole _ => some 1
  | spent => some 0
  | sized size _ items => (word? items.length).bind (roundedUp? · size)

/-- Bounds on the number of batches left; they agree. -/
def sizeHint (b : Batches α) : Nat × Nat := (b.count, b.count)

/-- Hands out at most `n` batches: the batches, and every state on the way, the first included. -/
def take : Nat → Batches α → List (List α) × List (Batches α)
  | 0, b => ([], [b])
  | n + 1, b =>
    match b.next with
    | (none, _) => ([], [b])
    | (some batch, b') =>
      let (batches, states) := take n b'
      (batch :: batches, b :: states)

/-- All batches. No list has more batches than `count` says. -/
def toList (b : Batches α) : List (List α) := (b.take b.count).1

/-! ## Counting -/

theorem count_next_some {b b' : Batches α} {batch : List α} (h : b.next = (some batch, b')) :
    b.count = b'.count + 1 := by
  cases b with
  | whole items => simp [next] at h; simp [← h.2, count]
  | spent => simp [next] at h
  | sized size hs items =>
    cases items with
    | nil => simp [next] at h
    | cons a r =>
      simp only [next, Prod.mk.injEq, Option.some.injEq] at h
      rw [← h.2]
      simp only [count, List.length_drop]
      by_cases hle : size ≤ (a :: r).length
      · rw [show (a :: r).length + size - 1 = (a :: r).length - size + size - 1 + size by omega,
          Nat.add_div_right _ hs]
      · have h1 : (a :: r).length - size = 0 := by omega
        have h2 : 0 < (a :: r).length := by simp
        rw [h1, Nat.div_eq_of_lt (by omega : 0 + size - 1 < size)]
        exact Nat.div_eq_of_lt_le (by omega) (by omega)

theorem count_next_none {b : Batches α} (h : b.next.1 = none) : b.count = 0 := by
  cases b with
  | whole items => simp [next] at h
  | spent => rfl
  | sized size hs items =>
    cases items with
    | nil => simp only [count, List.length_nil]; exact Nat.div_eq_of_lt (by omega)
    | cons a r => simp [next] at h

end Batches

end DbLifecycle
