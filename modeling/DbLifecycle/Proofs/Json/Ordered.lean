import DbLifecycle.Json.Parser

/-!
# Objects that are read are ordered

Reading puts the members of every object into increasing order of their names, no two of them with
one name.

* `Json.Ordered`: the members of all objects in a value are in order.
* **`Json.ordered_of_parse?`**: what is read is ordered.
* `Entries.foldl_insert_of_sorted`: putting entries that are in order one after another gives them
  back.
-/

namespace DbLifecycle

namespace Entries

variable {α : Type}

theorem insert_of_lt {k : String} {v : α} {es : List (String × α)} (h : ∀ e ∈ es, e.1 < k) :
    insert k v es = es ++ [(k, v)] := by
  induction es with
  | nil => rfl
  | cons e r ih =>
    have hlt : e.1 < k := h e (by simp)
    have hnot : ¬ k < e.1 := fun hk => String.lt_irrefl k (String.lt_trans hk hlt)
    have hne : k ≠ e.1 := fun hk => String.lt_irrefl k (by rwa [← hk] at hlt)
    rw [insert, if_neg hnot, if_neg hne, ih fun d hd => h d (List.mem_cons_of_mem e hd),
      List.cons_append]

theorem foldl_insert_append {es fs : List (String × α)} (h : Sorted (es ++ fs)) :
    fs.foldl (fun es e => insert e.1 e.2 es) es = es ++ fs := by
  induction fs generalizing es with
  | nil => simp
  | cons f r ih =>
    have hlt : ∀ e ∈ es, e.1 < f.1 := fun e he =>
      (List.pairwise_append.mp h).2.2 e he f (by simp)
    rw [List.foldl_cons, insert_of_lt hlt, ih (by simpa using h), List.append_assoc,
      List.singleton_append]

theorem foldl_insert_of_sorted {es : List (String × α)} (h : Sorted es) :
    es.foldl (fun es e => insert e.1 e.2 es) [] = es :=
  foldl_insert_append h

theorem sorted_foldl_insert {es fs : List (String × α)} (h : Sorted es) :
    Sorted (fs.foldl (fun es e => insert e.1 e.2 es) es) := by
  induction fs generalizing es with
  | nil => exact h
  | cons f r ih => exact ih (h.insert f.1 f.2)

theorem mem_foldl_insert {es fs : List (String × α)} {e : String × α}
    (h : e ∈ fs.foldl (fun es e => insert e.1 e.2 es) es) : e ∈ es ∨ e ∈ fs := by
  induction fs generalizing es with
  | nil => exact .inl h
  | cons f r ih =>
    rcases ih h with he | he
    · rcases mem_insert he with rfl | he
      · exact .inr List.mem_cons_self
      · exact .inl he
    · exact .inr (List.mem_cons_of_mem f he)

end Entries

namespace Json

/-! ## Ordered values -/

mutual

/-- The members of all objects in a value are in increasing order of their names. -/
def Ordered : Json → Prop
  | arr items => OrderedItems items
  | obj members => Entries.Sorted members ∧ OrderedMembers members
  | _ => True

/-- All items are ordered. -/
def OrderedItems : List Json → Prop
  | [] => True
  | v :: r => Ordered v ∧ OrderedItems r

/-- The values of all members are ordered. -/
def OrderedMembers : List (String × Json) → Prop
  | [] => True
  | (_, v) :: r => Ordered v ∧ OrderedMembers r

end

theorem orderedMembers_iff {ms : List (String × Json)} :
    OrderedMembers ms ↔ ∀ m ∈ ms, m.2.Ordered := by
  induction ms with
  | nil => simp [OrderedMembers]
  | cons m r ih => simp [OrderedMembers, ih]

/-! ## Reading -/

/-- What a part of a text is read as, with some fuel, is ordered. -/
structure Orders (fuel : Nat) : Prop where
  value : ∀ {cs p}, value fuel cs = some p → p.1.Ordered
  items : ∀ {cs p}, items fuel cs = some p → OrderedItems p.1
  members : ∀ {cs p}, members fuel cs = some p → OrderedMembers p.1

theorem ordered_of_value {fuel : Nat} (ih : Orders fuel) {cs : List Char} {p : Json × List Char}
    (h : value (fuel + 1) cs = some p) : p.1.Ordered := by
  rw [value] at h
  split at h
  case h_2 =>
    split at h
    · cases h
      exact trivial
    · obtain ⟨q, hq, rfl⟩ := Option.map_eq_some_iff.mp h
      exact ih.items hq
  case h_3 =>
    split at h
    · cases h
      exact ⟨List.Pairwise.nil, trivial⟩
    · obtain ⟨q, hq, rfl⟩ := Option.map_eq_some_iff.mp h
      refine ⟨Entries.sorted_foldl_insert List.Pairwise.nil, orderedMembers_iff.mpr fun m hm => ?_⟩
      have hm := (Entries.mem_foldl_insert hm).resolve_left List.not_mem_nil
      exact orderedMembers_iff.mp (ih.members hq) m hm
  all_goals
    obtain ⟨q, -, rfl⟩ := Option.map_eq_some_iff.mp h
    exact trivial

theorem orderedItems_of_items {fuel : Nat} (ih : Orders fuel) {cs : List Char}
    {p : List Json × List Char} (h : items (fuel + 1) cs = some p) : OrderedItems p.1 := by
  rw [items] at h
  obtain ⟨v, hv, h⟩ := Option.bind_eq_some_iff.mp h
  split at h
  · cases h
    exact ⟨ih.value hv, trivial⟩
  · obtain ⟨q, hq, rfl⟩ := Option.map_eq_some_iff.mp h
    exact ⟨ih.value hv, ih.items hq⟩
  · cases h

theorem orderedMembers_of_members {fuel : Nat} (ih : Orders fuel) {cs : List Char}
    {p : List (String × Json) × List Char} (h : members (fuel + 1) cs = some p) :
    OrderedMembers p.1 := by
  rw [members] at h
  split at h
  · obtain ⟨k, -, h⟩ := Option.bind_eq_some_iff.mp h
    split at h
    · obtain ⟨v, hv, h⟩ := Option.bind_eq_some_iff.mp h
      split at h
      · cases h
        exact ⟨ih.value hv, trivial⟩
      · obtain ⟨q, hq, rfl⟩ := Option.map_eq_some_iff.mp h
        exact ⟨ih.value hv, ih.members hq⟩
      · cases h
    · cases h
  · cases h

theorem orders (fuel : Nat) : Orders fuel := by
  induction fuel with
  | zero => exact ⟨nofun, nofun, nofun⟩
  | succ fuel ih =>
    exact ⟨ordered_of_value ih, orderedItems_of_items ih, orderedMembers_of_members ih⟩

/-- **What is read is ordered.** -/
theorem ordered_of_parse? {text : String} {v : Json} (h : parse? text = some v) : v.Ordered := by
  unfold parse? at h
  dsimp only at h
  split at h
  · rename_i w r hvalue
    split at h
    · cases h
      exact (orders _).value hvalue
    · cases h
  · cases h

end Json

end DbLifecycle
