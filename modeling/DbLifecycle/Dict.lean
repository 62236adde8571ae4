/-!
# Dictionaries

Finite maps with text keys, kept as a list of entries in strictly increasing key order. The order
of keys is that of their code points, so walking a dictionary visits its keys in the order every
answer of this library lists them in.

* `Dict`: the type; its order is part of it.
* `Dict.get?`, `Dict.insert`, `Dict.erase`, `Dict.ofList`, `Dict.map`.
* **`Dict.get?_insert`**, **`Dict.get?_erase`**: an operation touches its own key and no other.
* **`Dict.ext_get?`**: a dictionary is determined by its look-ups.
* `Dict.keys_ext`: dictionaries with the same keys list them alike.
-/

namespace DbLifecycle

variable {α β : Type}

/-! ## Sorted entries -/

namespace Entries

/-- Strictly increasing keys. -/
def Sorted (es : List (String × α)) : Prop := es.Pairwise fun a b => a.1 < b.1

/-- The value stored under a key. -/
def lookup (k : String) : List (String × α) → Option α
  | [] => none
  | (j, v) :: r => if j = k then some v else lookup k r

/-- Puts a value at its place in the order, replacing what the key held. -/
def insert (k : String) (v : α) : List (String × α) → List (String × α)
  | [] => [(k, v)]
  | (j, w) :: r =>
    if k < j then (k, v) :: (j, w) :: r
    else if k = j then (k, v) :: r
    else (j, w) :: insert k v r

theorem mem_insert {k : String} {v : α} {es : List (String × α)} {e : String × α}
    (h : e ∈ insert k v es) : e = (k, v) ∨ e ∈ es := by
  induction es with
  | nil => simp_all [insert]
  | cons a r ih =>
    obtain ⟨j, w⟩ := a
    rw [insert] at h
    split at h
    · simpa using h
    · split at h
      · simp at h ⊢; rcases h with h | h <;> simp [h]
      · simp at h ⊢
        rcases h with h | h
        · simp [h]
        · rcases ih h with h | h <;> simp [h]

theorem Sorted.insert {es : List (String × α)} (k : String) (v : α) (h : Sorted es) :
    Sorted (insert k v es) := by
  induction es with
  | nil => simp [Sorted, Entries.insert]
  | cons a r ih =>
    obtain ⟨j, w⟩ := a
    obtain ⟨hj, hr⟩ := List.pairwise_cons.1 h
    rw [Entries.insert]
    split
    case isTrue hlt =>
      refine List.pairwise_cons.2 ⟨fun e he => ?_, h⟩
      rcases List.mem_cons.1 he with rfl | he
      · exact hlt
      · exact String.lt_trans hlt (hj e he)
    case isFalse hlt =>
      split
      case isTrue heq => subst heq; exact List.pairwise_cons.2 ⟨hj, hr⟩
      case isFalse hne =>
        have hjk : j < k := Decidable.byContradiction fun hn =>
          hne (String.le_antisymm (String.not_lt.1 hn) (String.not_lt.1 hlt))
        refine List.pairwise_cons.2 ⟨fun e he => ?_, ih hr⟩
        rcases mem_insert he with rfl | he
        · exact hjk
        · exact hj e he

theorem lookup_insert (k j : String) (v : α) (es : List (String × α)) :
    lookup j (insert k v es) = if k = j then some v else lookup j es := by
  induction es with
  | nil => simp [insert, lookup]
  | cons a r ih => obtain ⟨i, w⟩ := a; grind [insert, lookup]

theorem lookup_eq_none_of_lt {k : String} {es : List (String × α)}
    (h : ∀ e ∈ es, k < e.1) : lookup k es = none := by
  induction es with
  | nil => rfl
  | cons a r ih =>
    have hne : a.1 ≠ k := fun he => String.lt_irrefl k (by simpa [he] using h a (by simp))
    simp [lookup, hne, ih fun e he => h e (by simp [he])]

theorem lookup_filter (k j : String) (es : List (String × α)) :
    lookup j (es.filter fun e => e.1 ≠ k) = if k = j then none else lookup j es := by
  induction es with
  | nil => simp [lookup]
  | cons a r ih => obtain ⟨i, w⟩ := a; grind [lookup, List.filter]

theorem lookup_map (f : String → α → β) (k : String) (es : List (String × α)) :
    lookup k (es.map fun e => (e.1, f e.1 e.2)) = (lookup k es).map (f k) := by
  induction es with
  | nil => rfl
  | cons a r ih => obtain ⟨i, w⟩ := a; grind [lookup]

theorem lookup_eq_some_iff {k : String} {v : α} {es : List (String × α)} (h : Sorted es) :
    lookup k es = some v ↔ (k, v) ∈ es := by
  induction es with
  | nil => simp [lookup]
  | cons a r ih =>
    obtain ⟨j, w⟩ := a
    obtain ⟨hj, hr⟩ := List.pairwise_cons.1 h
    rw [lookup]
    split
    case isTrue heq =>
      subst heq
      constructor
      · rintro ⟨⟩; simp
      · intro hm
        rcases List.mem_cons.1 hm with hm | hm
        · cases hm; rfl
        · exact absurd (hj _ hm) (String.lt_irrefl _)
    case isFalse hne =>
      rw [ih hr, List.mem_cons]
      exact ⟨.inr, fun hm => hm.resolve_left fun he => hne (by cases he; rfl)⟩

theorem Sorted.ext {es fs : List (String × α)} (he : Sorted es) (hf : Sorted fs)
    (h : ∀ k, lookup k es = lookup k fs) : es = fs := by
  induction es generalizing fs with
  | nil =>
    cases fs with
    | nil => rfl
    | cons b r => have := h b.1; simp [lookup] at this
  | cons a r ih =>
    cases fs with
    | nil => have := h a.1; simp [lookup] at this
    | cons b s =>
      obtain ⟨ha, hr⟩ := List.pairwise_cons.1 he
      obtain ⟨hb, hs⟩ := List.pairwise_cons.1 hf
      have hab : a.1 = b.1 := by
        have h1 := (h a.1).symm.trans (by simp [lookup] : _ = some a.2)
        have h2 := (h b.1).trans (by simp [lookup] : _ = some b.2)
        rcases List.mem_cons.1 ((lookup_eq_some_iff hf).1 h1) with e1 | m1
        · rw [← e1]
        · rcases List.mem_cons.1 ((lookup_eq_some_iff he).1 h2) with e2 | m2
          · rw [← e2]
          · exact absurd (String.lt_trans (hb _ m1) (ha _ m2)) (String.lt_irrefl _)
      have hv : a.2 = b.2 := by have := h a.1; simpa [lookup, hab] using this
      refine List.cons_eq_cons.2 ⟨Prod.ext hab hv, ih hr hs fun k => ?_⟩
      by_cases hk : a.1 = k
      · subst hk
        rw [lookup_eq_none_of_lt ha, lookup_eq_none_of_lt (by simpa [hab] using hb)]
      · have hb' : b.1 ≠ k := fun e => hk (hab.trans e)
        have := h k
        simpa [lookup, hk, hb'] using this

end Entries

/-! ## Dictionaries -/

/-- A finite map from text keys, its entries in increasing key order. -/
structure Dict (α : Type) where
  entries : List (String × α)
  sorted : Entries.Sorted entries
  deriving DecidableEq

namespace Dict

/-- The dictionary without entries. -/
def empty : Dict α := ⟨[], List.Pairwise.nil⟩

instance : EmptyCollection (Dict α) := ⟨empty⟩

instance : Inhabited (Dict α) := ⟨empty⟩

/-- The value under a key. -/
def get? (d : Dict α) (k : String) : Option α := Entries.lookup k d.entries

/-- Whether a key has a value. -/
def contains (d : Dict α) (k : String) : Bool := (d.get? k).isSome

/-- Sets the value of a key. -/
def insert (d : Dict α) (k : String) (v : α) : Dict α :=
  ⟨Entries.insert k v d.entries, d.sorted.insert k v⟩

/-- Removes a key. -/
def erase (d : Dict α) (k : String) : Dict α :=
  ⟨d.entries.filter fun e => e.1 ≠ k, d.sorted.filter _⟩

/-- The keys, in order. -/
def keys (d : Dict α) : List String := d.entries.map (·.1)

/-- The values, in the order of their keys. -/
def values (d : Dict α) : List α := d.entries.map (·.2)

/-- The number of entries. -/
def size (d : Dict α) : Nat := d.entries.length

/-- Whether there is no entry. -/
def isEmpty (d : Dict α) : Bool := d.entries.isEmpty

/-- Inserts the entries one after another, so the last value of a key wins. -/
def ofList (es : List (String × α)) : Dict α := es.foldl (fun d e => d.insert e.1 e.2) empty

/-- The dictionary of one entry. -/
def singleton (k : String) (v : α) : Dict α := empty.insert k v

/-- Applies a function to every value. -/
def map (f : String → α → β) (d : Dict α) : Dict β :=
  ⟨d.entries.map fun e => (e.1, f e.1 e.2), by
    simpa [Entries.Sorted, List.pairwise_map] using d.sorted⟩

/-! ## Look-ups -/

@[simp] theorem get?_empty (k : String) : (empty : Dict α).get? k = none := rfl

theorem get?_insert (d : Dict α) (k j : String) (v : α) :
    (d.insert k v).get? j = if k = j then some v else d.get? j :=
  Entries.lookup_insert k j v d.entries

theorem get?_erase (d : Dict α) (k j : String) :
    (d.erase k).get? j = if k = j then none else d.get? j :=
  Entries.lookup_filter k j d.entries

@[simp] theorem get?_map (f : String → α → β) (d : Dict α) (k : String) :
    (d.map f).get? k = (d.get? k).map (f k) :=
  Entries.lookup_map f k d.entries

theorem get?_eq_some_iff {d : Dict α} {k : String} {v : α} :
    d.get? k = some v ↔ (k, v) ∈ d.entries :=
  Entries.lookup_eq_some_iff d.sorted

theorem ext_get? {d e : Dict α} (h : ∀ k, d.get? k = e.get? k) : d = e := by
  obtain ⟨es, hes⟩ := d
  obtain ⟨fs, hfs⟩ := e
  have := Entries.Sorted.ext hes hfs h
  subst this; rfl

theorem mem_keys_iff {d : Dict α} {k : String} : k ∈ d.keys ↔ (d.get? k).isSome := by
  simp only [keys, List.mem_map, Option.isSome_iff_exists, get?_eq_some_iff]
  exact ⟨fun ⟨e, he, hk⟩ => ⟨e.2, by simpa [← hk] using he⟩, fun ⟨v, hv⟩ => ⟨(k, v), hv, rfl⟩⟩

theorem keys_sorted (d : Dict α) : d.keys.Pairwise (· < ·) := by
  simpa [keys, List.pairwise_map, Entries.Sorted] using d.sorted

theorem keys_nodup (d : Dict α) : d.keys.Nodup :=
  d.keys_sorted.imp fun {a b} (h : a < b) (e : a = b) => String.lt_irrefl b (e ▸ h)

@[simp] theorem keys_empty : (empty : Dict α).keys = [] := rfl

@[simp] theorem keys_map (f : String → α → β) (d : Dict α) : (d.map f).keys = d.keys := by
  simp [keys, map, Function.comp_def]

theorem contains_iff {d : Dict α} {k : String} : d.contains k = true ↔ k ∈ d.keys :=
  mem_keys_iff.symm

theorem get?_eq_none_iff {d : Dict α} {k : String} : d.get? k = none ↔ k ∉ d.keys := by
  rw [mem_keys_iff, Bool.not_eq_true, Option.isSome_eq_false_iff, Option.isNone_iff_eq_none]

theorem exists_of_mem_keys {d : Dict α} {k : String} (h : k ∈ d.keys) :
    ∃ v, d.get? k = some v :=
  Option.isSome_iff_exists.mp (mem_keys_iff.mp h)

theorem mem_keys_insert {d : Dict α} {k j : String} {v : α} :
    j ∈ (d.insert k v).keys ↔ j = k ∨ j ∈ d.keys := by
  rw [mem_keys_iff, mem_keys_iff, get?_insert]
  by_cases h : k = j
  · simp [h]
  · simp [h, Ne.symm h]

/-- Two dictionaries with the same keys list them alike. -/
theorem keys_ext {d : Dict α} {e : Dict β} (h : ∀ k, k ∈ d.keys ↔ k ∈ e.keys) :
    d.keys = e.keys := by
  have hm : d.map (fun _ _ => ()) = e.map fun _ _ => () := ext_get? fun k => by
    have := h k
    rw [mem_keys_iff, mem_keys_iff] at this
    rw [get?_map, get?_map]
    cases hd : d.get? k <;> cases he : e.get? k <;> simp_all
  rw [← keys_map fun _ _ => (), hm, keys_map]

theorem eq_empty_of_keys {d : Dict α} (h : d.keys = []) : d = empty :=
  ext_get? fun k => by rw [get?_empty, get?_eq_none_iff, h]; exact List.not_mem_nil

end Dict

end DbLifecycle
