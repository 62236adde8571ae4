import DbLifecycle.Batch

/-!
# What is handed out

All batches of a list, one after another.

* `Batches.toList_of_next_none`, `Batches.toList_of_next_some`: the next batch is the first of all.
* `Batches.sized_induction`: induction over a list as it is handed out.
* `Batches.flatten_toList`: together they are the list.
* `itemsBefore`: the items of the batches before the one that an index falls into.
* **`Batches.itemsBefore_toList`**: in batches of a size those are a multiple of it.
-/

namespace DbLifecycle

namespace Batches

variable {α : Type}

/-! ## One batch after another -/

theorem toList_of_next_none {b : Batches α} (h : b.next.1 = none) : b.toList = [] := by
  rw [toList, count_next_none h]
  rfl

theorem toList_of_next_some {b b' : Batches α} {batch : List α} (h : b.next = (some batch, b')) :
    b.toList = batch :: b'.toList := by
  rw [toList, count_next_some h, take, h]
  rfl

@[simp]
theorem toList_whole (items : List α) : (whole items).toList = [items] := rfl

@[simp]
theorem toList_sized_nil (size : Nat) (h : 0 < size) :
    (sized size h ([] : List α)).toList = [] := toList_of_next_none rfl

theorem toList_sized_cons (size : Nat) (h : 0 < size) (a : α) (r : List α) :
    (sized size h (a :: r)).toList =
      (a :: r).take size :: (sized size h ((a :: r).drop size)).toList := toList_of_next_some rfl

/-- Induction over a list as it is handed out in batches of a size. -/
@[elab_as_elim]
theorem sized_induction {motive : List α → Prop} {size : Nat} (h : 0 < size) (nil : motive [])
    (batch : ∀ a r, motive ((a :: r).drop size) → motive (a :: r)) (items : List α) :
    motive items :=
  match items with
  | [] => nil
  | a :: r => batch a r (sized_induction h nil batch ((a :: r).drop size))
termination_by items.length
decreasing_by
  rw [List.length_drop, List.length_cons]
  omega

theorem flatten_toList_sized (size : Nat) (h : 0 < size) (items : List α) :
    (sized size h items).toList.flatten = items := by
  induction items using sized_induction h with
  | nil => rw [toList_sized_nil, List.flatten_nil]
  | batch a r ih => rw [toList_sized_cons, List.flatten_cons, ih, List.take_append_drop]

/-- **The batches of a list are the list.** -/
theorem flatten_toList (items : List α) (size : Option Nat) :
    (ofList items size).toList.flatten = items := by
  cases size with
  | none => simp [ofList]
  | some size =>
    rw [ofList]
    split
    · exact flatten_toList_sized size _ items
    · simp

/-! ## Before an index -/

end Batches

/-- How many items lie in the batches before the one that an index falls into. -/
def itemsBefore {α : Type} : List (List α) → Nat → Nat
  | [], _ => 0
  | batch :: rest, i =>
    if i < batch.length then 0 else batch.length + itemsBefore rest (i - batch.length)

namespace Batches

variable {α : Type}

theorem itemsBefore_sized {size : Nat} (h : 0 < size) {items : List α} {i : Nat}
    (hi : i < items.length) :
    itemsBefore (sized size h items).toList i = size * (i / size) := by
  induction items using sized_induction h generalizing i with
  | nil => exact absurd hi (Nat.not_lt_zero i)
  | batch a r ih =>
    rw [toList_sized_cons, itemsBefore, List.length_take]
    by_cases his : i < size
    · rw [if_pos (Nat.lt_min.mpr ⟨his, hi⟩), Nat.div_eq_of_lt his, Nat.mul_zero]
    · have hmin : min size (a :: r).length = size := by omega
      have hrest : i - size < ((a :: r).drop size).length := by
        rw [List.length_drop]
        omega
      have hdiv : i / size = (i - size) / size + 1 := by
        rw [← Nat.add_div_right _ h, Nat.sub_add_cancel (Nat.not_lt.mp his)]
      rw [hmin, if_neg his, ih hrest, hdiv, Nat.mul_add, Nat.mul_one, Nat.add_comm]

/-- How many items lie in full batches before an index. -/
def kept : Option Nat → Nat → Nat
  | none, _ => 0
  | some size, i => size * (i / size)

/-- **Before the batch of an index lie full batches only**, and none if all is one batch. -/
theorem itemsBefore_toList {items : List α} {i : Nat} (hi : i < items.length)
    (size : Option Nat) : itemsBefore (ofList items size).toList i = kept size i := by
  cases size with
  | none => exact if_pos hi
  | some size =>
    rw [ofList]
    split
    · rename_i h
      exact itemsBefore_sized h hi
    · rename_i h
      obtain rfl : size = 0 := Nat.eq_zero_of_not_pos h
      rw [toList_whole, itemsBefore, if_pos hi, kept, Nat.zero_mul]

end Batches

end DbLifecycle
