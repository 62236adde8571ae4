import DbLifecycle.Proofs.Batches
import Mathlib.Algebra.Order.Floor.Div

/-!
# How a list is divided

What each call for the next batch answers, and how many calls will still be answered.

* `Batches.after`, `Batches.answer`, `Batches.pulled`: calls for the next batch, one after another.
* `Batches.answer_eq_getElem?`: the answers are the batches in order, and nothing after them.
* `Batches.after_sized`: every call moves on by the size.
* `Batches.count?_eq_count`: counting in words gives the number of batches left.
* **`Batches.division`**: the batches of a list, by their places in it.
* **`Batches.exact_count`**: in every state the number of batches left is the number of calls that
  will be answered.
-/

namespace DbLifecycle

namespace Batches

variable {α : Type}

/-! ## Calls -/

/-- What is left after some calls for the next batch. -/
def after : Nat → Batches α → Batches α
  | 0, b => b
  | n + 1, b => (b.after n).next.2

/-- The answer to the call for the next batch that comes after `n` others. -/
def answer (b : Batches α) (n : Nat) : Option (List α) := (b.after n).next.1

/-- The batches that the first `n` calls give. -/
def pulled (n : Nat) (b : Batches α) : List (List α) := (List.range n).filterMap b.answer

theorem pulled_succ (n : Nat) (b : Batches α) :
    b.pulled (n + 1) = b.pulled n ++ (b.answer n).toList := by
  rw [pulled, List.range_succ, List.filterMap_append]
  cases h : b.answer n <;> simp [pulled, h]

theorem next_of_none {b : Batches α} (h : b.next.1 = none) : b.next.2 = b := by
  cases b with
  | whole items => cases h
  | spent => rfl
  | sized size hs items =>
    cases items with
    | nil => rfl
    | cons a r => cases h

/-- A call takes its batch from the front of the items. -/
theorem remaining_next (b : Batches α) :
    (b.next.1.toList).flatten ++ b.next.2.remaining = b.remaining := by
  cases b with
  | whole items => simp [next, remaining]
  | spent => rfl
  | sized size hs items =>
    cases items with
    | nil => rfl
    | cons a r => simp [next, remaining]

/-- **No call loses an item.** -/
theorem flatten_pulled (n : Nat) (b : Batches α) :
    (b.pulled n).flatten ++ (b.after n).remaining = b.remaining := by
  induction n with
  | zero => rfl
  | succ n ih =>
    rw [pulled_succ, List.flatten_append, List.append_assoc, answer, after, remaining_next, ih]

/-- Once a call is not answered, no later one is. -/
theorem after_of_none {b : Batches α} (h : b.next.1 = none) (n : Nat) : b.after n = b := by
  induction n with
  | zero => rfl
  | succ n ih => rw [after, ih, next_of_none h]

/-! ## Calls and batches -/

theorem head?_toList (b : Batches α) : b.toList.head? = b.next.1 := by
  rcases h : b.next with ⟨_ | batch, b'⟩
  · rw [toList_of_next_none (by rw [h]), List.head?_nil]
  · rw [toList_of_next_some h, List.head?_cons]

theorem tail_toList (b : Batches α) : b.toList.tail = b.next.2.toList := by
  rcases h : b.next with ⟨_ | batch, b'⟩
  · have hnone : b.next.1 = none := by rw [h]
    have hsame := next_of_none hnone
    rw [h] at hsame
    dsimp only at hsame ⊢
    rw [hsame, toList_of_next_none hnone, List.tail_nil]
  · rw [toList_of_next_some h, List.tail_cons]

theorem toList_after (n : Nat) (b : Batches α) : (b.after n).toList = b.toList.drop n := by
  induction n with
  | zero => rfl
  | succ n ih => rw [after, ← tail_toList, ih, List.tail_drop]

/-- **The answers are the batches in order**, and nothing after them. -/
theorem answer_eq_getElem? (b : Batches α) (n : Nat) : b.answer n = b.toList[n]? := by
  rw [answer, ← head?_toList, toList_after, List.head?_drop]

theorem length_toList (b : Batches α) : b.toList.length = b.count := by
  induction hc : b.count generalizing b with
  | zero =>
    rcases h : b.next with ⟨_ | batch, b'⟩
    · rw [toList_of_next_none (by rw [h]), List.length_nil]
    · rw [count_next_some h] at hc
      cases hc
  | succ n ih =>
    rcases h : b.next with ⟨_ | batch, b'⟩
    · rw [count_next_none (by rw [h])] at hc
      cases hc
    · rw [count_next_some h] at hc
      rw [toList_of_next_some h, List.length_cons, ih b' (Nat.succ.inj hc)]

/-- The calls that are answered are the next ones, as many as there are batches left. -/
theorem isSome_answer_iff (b : Batches α) (n : Nat) : (b.answer n).isSome ↔ n < b.count := by
  rw [answer_eq_getElem?, isSome_getElem?, length_toList]

/-! ## Places -/

/-- **Every call moves on by the size.** -/
theorem after_sized {size : Nat} (h : 0 < size) (items : List α) (n : Nat) :
    (sized size h items).after n = sized size h (items.drop (n * size)) := by
  induction n with
  | zero => rw [Nat.zero_mul, List.drop_zero, after]
  | succ n ih =>
    have hnext : ∀ xs : List α, (sized size h xs).next.2 = sized size h (xs.drop size) := by
      intro xs
      cases xs with
      | nil => rw [List.drop_nil]; rfl
      | cons a r => rfl
    rw [after, ih, hnext, List.drop_drop, Nat.succ_mul]

theorem next_sized {size : Nat} (h : 0 < size) {items : List α} (hne : items ≠ []) :
    (sized size h items).next.1 = some (items.take size) := by
  cases items with
  | nil => exact absurd rfl hne
  | cons a r => rfl

/-- The items between two places that lie a size apart. -/
theorem extract_eq_take (items : List α) (size n : Nat) :
    items.extract (n * size) (min ((n + 1) * size) items.length) =
      (items.drop (n * size)).take size := by
  rw [List.extract_eq_take_drop, List.take_eq_take_iff, List.length_drop, Nat.succ_mul]
  omega

/-- A batch begins before the end of the list, and holds the items from its place to the next. -/
theorem getElem_toList_sized {size : Nat} (h : 0 < size) (items : List α) {n : Nat}
    (hn : n < (sized size h items).toList.length) :
    n * size < items.length ∧ (sized size h items).toList[n] = (items.drop (n * size)).take size := by
  have hbatch : (sized size h items).answer n = some (sized size h items).toList[n] := by
    rw [answer_eq_getElem?, List.getElem?_eq_getElem hn]
  rw [answer, after_sized] at hbatch
  have hne : items.drop (n * size) ≠ [] := by
    intro hnil
    rw [hnil] at hbatch
    cases hbatch
  rw [next_sized h hne] at hbatch
  exact ⟨by simpa using hne, (Option.some.inj hbatch).symm⟩

/-- A list in batches of a size: as many as it takes, each from its place on, none of them empty or
too long, and all but the last of them full. -/
structure Divided (size : Nat) (items : List α) (batches : List (List α)) : Prop where
  length_eq : batches.length = items.length ⌈/⌉ size
  fits : ∀ batch ∈ batches, batch ≠ [] ∧ batch.length ≤ size
  full : ∀ batch ∈ batches.dropLast, batch.length = size
  place : ∀ n < batches.length,
    batches[n]? = some (items.extract (n * size) (min ((n + 1) * size) items.length))

theorem divided_toList {size : Nat} (h : 0 < size) (items : List α) :
    Divided size items (sized size h items).toList where
  length_eq := length_toList _
  fits := by
    intro batch hmem
    obtain ⟨n, hn, rfl⟩ := List.getElem_of_mem hmem
    obtain ⟨hbegin, hbatch⟩ := getElem_toList_sized h items hn
    rw [hbatch]
    refine ⟨List.ne_nil_of_length_pos ?_, List.length_take_le _ _⟩
    rw [List.length_take, List.length_drop]
    omega
  full := by
    intro batch hmem
    obtain ⟨n, hn, rfl⟩ := List.getElem_of_mem hmem
    rw [List.length_dropLast] at hn
    have hnext := (getElem_toList_sized h items (n := n + 1) (by omega)).1
    rw [List.getElem_dropLast, (getElem_toList_sized h items (by omega)).2, List.length_take,
      List.length_drop]
    rw [Nat.succ_mul] at hnext
    omega
  place := by
    intro n hn
    rw [List.getElem?_eq_getElem hn, (getElem_toList_sized h items hn).2, extract_eq_take]

/-- **How a list is divided.** The calls give the batches in order and nothing after them, and the
batches are the list. Without a size, or with the size zero, there is one batch, also of an empty
list; else they are batches of the size. -/
theorem division (items : List α) (size : Option Nat) :
    (∀ n, (ofList items size).answer n = (ofList items size).toList[n]?) ∧
    (ofList items size).toList.flatten = items ∧
    match size with
    | none => (ofList items size).toList = [items]
    | some size =>
      if size = 0 then (ofList items size).toList = [items]
      else Divided size items (ofList items size).toList := by
  refine ⟨answer_eq_getElem? _, flatten_toList items size, ?_⟩
  cases size with
  | none => rfl
  | some size =>
    dsimp only
    split
    · rename_i hzero
      subst hzero
      rfl
    · rename_i hne
      rw [ofList, dif_pos (Nat.pos_of_ne_zero hne)]
      exact divided_toList _ items

example : (ofList [1, 2, 3] (some (UInt64.size - 1))).toList = [[1, 2, 3]] := by decide

/-! ## Counting -/

theorem word?_of_lt {n : Nat} (h : n < UInt64.size) : word? n = some n := if_pos h

/-- A quotient rounded up is the quotient, or one more if something is left over. -/
theorem ceilDiv_eq {n size : Nat} (h : 0 < size) :
    n ⌈/⌉ size = if n % size = 0 then n / size else n / size + 1 := by
  have hsplit : n / size * size + n % size = n := Nat.div_add_mod' n size
  have hlt : n % size < size := Nat.mod_lt n h
  rw [Nat.ceilDiv_eq_add_pred_div]
  split
  · refine Nat.div_eq_of_lt_le (by omega) ?_
    rw [Nat.succ_mul]
    omega
  · refine Nat.div_eq_of_lt_le ?_ ?_
    · rw [Nat.succ_mul]
      omega
    · rw [Nat.succ_mul, Nat.succ_mul]
      omega

/-- Dividing a word by a size that is not zero stays within words. -/
theorem roundedUp?_eq {n size : Nat} (hsize : 0 < size) (hn : n < UInt64.size) :
    roundedUp? n size = some (n ⌈/⌉ size) := by
  have hle : n ⌈/⌉ size ≤ n := by
    rw [ceilDiv_le_iff_le_mul hsize]
    exact Nat.le_mul_of_pos_left n hsize
  rw [ceilDiv_eq hsize] at hle ⊢
  rw [roundedUp?, if_neg (Nat.ne_of_gt hsize)]
  split
  · rename_i hzero
    rw [if_pos hzero] at hle
    exact word?_of_lt (Nat.lt_of_le_of_lt hle hn)
  · rename_i hrest
    rw [if_neg hrest] at hle
    exact word?_of_lt (Nat.lt_of_le_of_lt hle hn)

/-- **Counting in words gives the number of batches left**, for every list that words can count. -/
theorem count?_eq_count {b : Batches α} (h : b.remaining.length < UInt64.size) :
    b.count? = some b.count := by
  cases b with
  | whole items => rfl
  | spent => rfl
  | sized size hs items =>
    rw [remaining] at h
    rw [count?, word?_of_lt h, Option.bind_some, roundedUp?_eq hs h]
    rfl

theorem count_next (b : Batches α) (h : b.next.1.isSome) : b.count = b.next.2.count + 1 := by
  obtain ⟨batch, hbatch⟩ := Option.isSome_iff_exists.mp h
  exact count_next_some (Prod.ext hbatch rfl)

theorem remaining_ofList (items : List α) (size : Option Nat) :
    (ofList items size).remaining = items := by
  cases size with
  | none => rfl
  | some size =>
    rw [ofList]
    split <;> rfl

/-- **In every state the number of batches left is the number of calls that will be answered.**
After any calls nothing is lost; both bounds on the number are the number itself, which words can
compute; exactly the next calls, as many as that, are answered, and each lowers it by one; and after
a call that is not answered there are no more answers. -/
theorem exact_count (items : List α) (size : Option Nat) (n : Nat)
    (hlength : items.length < UInt64.size) :
    let b := (ofList items size).after n
    ((ofList items size).pulled n).flatten ++ b.remaining = items ∧
    b.sizeHint = (b.count, b.count) ∧ b.count? = some b.count ∧
    (∀ m, (b.answer m).isSome ↔ m < b.count) ∧
    (b.next.1.isSome → b.count = b.next.2.count + 1) ∧
    (b.next.1 = none → ∀ m, b.answer m = none ∧ (b.after m).count = 0) := by
  intro b
  have hitems : ((ofList items size).pulled n).flatten ++ b.remaining = items := by
    rw [flatten_pulled, remaining_ofList]
  have hremaining : b.remaining.length < UInt64.size := by
    refine Nat.lt_of_le_of_lt ?_ hlength
    rw [← hitems, List.length_append]
    exact Nat.le_add_left _ _
  refine ⟨hitems, rfl, count?_eq_count hremaining, b.isSome_answer_iff, b.count_next,
    fun hnone m => ?_⟩
  rw [answer, after_of_none hnone]
  exact ⟨hnone, count_next_none hnone⟩

/-- The third batch of a list is a part of one, and the last. -/
theorem exact_count_part : [1, 2, 3, 4, 5, 6, 7].length < UInt64.size ∧
    let b := (ofList [1, 2, 3, 4, 5, 6, 7] (some 3)).after 2
    b.remaining = [7] ∧ b.count? = some 1 ∧ (b.answer 0).isSome ∧ ¬(b.answer 1).isSome := by
  have hlength : [1, 2, 3, 4, 5, 6, 7].length < UInt64.size := by decide
  obtain ⟨hitems, -, hcount, hanswers, -, -⟩ :=
    exact_count [1, 2, 3, 4, 5, 6, 7] (some 3) 2 hlength
  have hone : ((ofList [1, 2, 3, 4, 5, 6, 7] (some 3)).after 2).count = 1 := by decide
  rw [hone] at hcount hanswers
  have hfront : ((ofList [1, 2, 3, 4, 5, 6, 7] (some 3)).pulled 2).flatten = [1, 2, 3, 4, 5, 6] := by
    decide
  have hremaining : ((ofList [1, 2, 3, 4, 5, 6, 7] (some 3)).after 2).remaining = [7] := by
    rw [hfront] at hitems
    simpa using hitems
  exact ⟨hlength, hremaining, hcount, (hanswers 0).mpr (by decide),
    fun h => absurd ((hanswers 1).mp h) (by decide)⟩

end Batches

end DbLifecycle
