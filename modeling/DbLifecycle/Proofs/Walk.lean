import Mathlib.Data.List.Basic
import Mathlib.Data.List.Forall2

/-!
# Walks that can fail

What it means that a chain of steps, or a walk along a list, comes to its end.

* `bind_eq_ok_iff`, `bind_eq_error_iff`, `map_eq_ok_iff`: a step after another.
* `forM_eq_ok_iff`, `forM_eq_error_iff`: a check of all items, and the first that fails.
* `mapM_eq_ok_iff`, `exists_mapM_eq_ok`: a result for every item.
-/

namespace DbLifecycle

variable {α β ε : Type}

theorem bind_eq_ok_iff {x : Except ε α} {f : α → Except ε β} {b : β} :
    (x >>= f) = .ok b ↔ ∃ a, x = .ok a ∧ f a = .ok b := by
  cases x <;> simp [bind, Except.bind]

theorem bind_eq_error_iff {x : Except ε α} {f : α → Except ε β} {e : ε} :
    (x >>= f) = .error e ↔ x = .error e ∨ ∃ a, x = .ok a ∧ f a = .error e := by
  cases x <;> simp [bind, Except.bind]

theorem map_eq_ok_iff {f : α → β} {x : Except ε α} {b : β} :
    x.map f = .ok b ↔ ∃ a, x = .ok a ∧ f a = b := by
  cases x <;> simp [Except.map]

/-- A check of all items succeeds exactly if it does on each. -/
theorem forM_eq_ok_iff {f : α → Except ε Unit} {l : List α} :
    l.forM f = .ok () ↔ ∀ a ∈ l, f a = .ok () := by
  induction l with
  | nil => simp [pure, Except.pure]
  | cons a l ih =>
    rw [List.forall_mem_cons, ← ih]
    change (f a >>= fun _ => l.forM f) = _ ↔ _
    cases h : f a with
    | error e => simp [bind, Except.bind]
    | ok u => simp [bind, Except.bind]

/-- A check of all items fails exactly if one of them does and all before it pass. -/
theorem forM_eq_error_iff {f : α → Except ε Unit} {l : List α} {e : ε} :
    l.forM f = .error e ↔
      ∃ before a after, l = before ++ a :: after ∧ before.forM f = .ok () ∧ f a = .error e := by
  simp only [List.forM_eq_forM]
  constructor
  · intro h
    induction l with
    | nil => cases h
    | cons a l ih =>
      rw [List.forM_cons] at h
      cases ha : f a with
      | error e' =>
        rw [ha] at h
        cases h
        exact ⟨[], a, l, rfl, rfl, ha⟩
      | ok u =>
        rw [ha] at h
        obtain ⟨before, b, after, rfl, hbefore, hb⟩ := ih h
        exact ⟨a :: before, b, after, rfl, by rw [List.forM_cons, ha]; exact hbefore, hb⟩
  · rintro ⟨before, a, after, rfl, hbefore, ha⟩
    rw [List.forM_append, hbefore, List.forM_cons, ha]
    rfl

/-- A walk gives a list of results exactly if these are the results of the items, in order. -/
theorem mapM_eq_ok_iff {f : α → Except ε β} {l : List α} {bs : List β} :
    l.mapM f = .ok bs ↔ List.Forall₂ (fun a b => f a = .ok b) l bs := by
  induction l generalizing bs with
  | nil =>
    rw [List.mapM_nil, List.forall₂_nil_left_iff]
    exact ⟨fun h => by cases h; rfl, fun h => by rw [h]; rfl⟩
  | cons a l ih =>
    rw [List.mapM_cons, List.forall₂_cons_left_iff]
    cases h : f a with
    | error e => simp [bind, Except.bind]
    | ok b =>
      simp only [bind, Except.bind, Except.ok.injEq]
      constructor
      · intro hb
        cases hl : l.mapM f with
        | error e => simp [hl] at hb
        | ok cs =>
          simp only [hl, pure, Except.pure, Except.ok.injEq] at hb
          exact ⟨b, cs, rfl, ih.mp hl, hb.symm⟩
      · rintro ⟨_, cs, rfl, hcs, rfl⟩
        rw [ih.mpr hcs]
        rfl

theorem exists_mapM_eq_ok {f : α → Except ε β} {l : List α} (h : ∀ a ∈ l, ∃ b, f a = .ok b) :
    ∃ bs, l.mapM f = .ok bs := by
  induction l with
  | nil => exact ⟨[], rfl⟩
  | cons a l ih =>
    obtain ⟨b, hb⟩ := h a List.mem_cons_self
    obtain ⟨bs, hbs⟩ := ih fun c hc => h c (List.mem_cons_of_mem a hc)
    exact ⟨b :: bs, mapM_eq_ok_iff.mpr (.cons hb (mapM_eq_ok_iff.mp hbs))⟩

end DbLifecycle
