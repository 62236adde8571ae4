import DbLifecycle.Proofs.Group.Stamina

/-!
# Tasks outside of a group

What the tasks outside of a group record does not depend on the group, nor on one another.

* `Gathering.exists_log_eq`: a family does in any company what it does alone, if no task of it gives
  way.
* **`Gathering.gather_isolated`**: cancellation does not leave its group.
* `Gathering.gather_not_isolated`: but whether a task outside is cancelled or panics with its own
  group may depend on its company.
-/

namespace DbLifecycle

namespace Gathering

variable {g : Gathering}

/-- **A family in company** does what it does alone, if no task of it gives way. -/
theorem exists_log_eq {outside : List Member} {j : Nat} {m : Member} (members : List Member)
    (hj : outside[j]? = some m)
    (hsteady : (∀ n, ((alone (.child .outer j) m).steps n).deferred = []) ∨
      ∀ n, ∀ x ∈ ((start members outside).steps n).deferred, family j x = false) :
    ∃ k, ((alone (.child .outer j) m).steps k).Done ∧
      (∀ n, ((alone (.child .outer j) m).steps n).deferred = []) ∧
      ∀ x, (TaskId.outer.child j).Above x →
        (gather members outside).log x = ((alone (.child .outer j) m).steps k).log x := by
  obtain ⟨k, hk, hbefore⟩ := (Beside.start members hj).steps (family_family j) (family_root j)
    (family_outer j) (Regular.start members outside) hsteady (bound members outside)
  have hdone := hk.done (gather_done members outside)
  refine ⟨k, hdone, fun n => ?_, fun x hx => (hk.log x (decide_eq_true hx)).eq.symm⟩
  rcases Nat.le_total n k with hle | hle
  · exact hbefore n hle
  · obtain ⟨i, rfl⟩ := Nat.exists_eq_add_of_le hle
    rw [steps_add, steps_of_done hdone]
    exact hk.steady

/-- Alone, all is done in one way. -/
theorem steps_eq_of_done {k l : Nat} (hk : (g.steps k).Done) (hl : (g.steps l).Done) :
    g.steps k = g.steps l := by
  rcases Nat.le_total k l with hle | hle
  · obtain ⟨i, rfl⟩ := Nat.exists_eq_add_of_le hle
    rw [steps_add, steps_of_done hk]
  · obtain ⟨i, rfl⟩ := Nat.exists_eq_add_of_le hle
    rw [steps_add, steps_of_done hl]

section Company

variable {members members' outside outside' : List Member} {j : Nat} {m : Member}

/-- A task outside does what is to be expected of it. -/
theorem gather_outside (members : List Member) (hj : outside[j]? = some m) :
    ∃ e, m.EndsWith e ∧ (gather members outside).log (.child .outer j) = m.story 0 e := by
  have hplan : plan members outside (.child .outer j) = some (0, m) := by
    rw [plan_child, plan_outer]
    simp [Member.childAt, Member.children, Member.delays, hj]
  exact (((Regular.start members outside).steps _).outside j 0 m hplan).2
    (gather_ended members outside _)

/-- A task outside and those of its groups record the same at the same times in any company, if none
of them gives way in one. -/
theorem log_eq_of_steady (hj : outside[j]? = some m) (hj' : outside'[j]? = some m)
    (hsteady : ∀ n x, (TaskId.outer.child j).Above x →
      x ∉ ((start members outside).steps n).deferred)
    {x : TaskId} (hx : (TaskId.outer.child j).Above x) :
    (gather members outside).log x = (gather members' outside').log x := by
  obtain ⟨k, hk, halone, hlog⟩ := exists_log_eq members hj (.inr fun n y hy => by
    rw [← Bool.not_eq_true]
    exact fun hfamily => hsteady n y (of_decide_eq_true hfamily) hy)
  obtain ⟨l, hl, -, hlog'⟩ := exists_log_eq members' hj' (.inl halone)
  rw [hlog x hx, hlog' x hx, steps_eq_of_done hk hl]

/-- **Cancellation does not leave its group.** Whatever the groups and the other tasks outside do, a
task outside records the same at the same times, but for whether it is cancelled or panics when its
own group fails, if that has quickest failing members of both kinds. And if neither it nor a task of
its groups gives way in one company, then all of them record the same in any other. -/
theorem gather_isolated (hj : outside[j]? = some m) (hj' : outside'[j]? = some m) :
    ((gather members outside).log (.child .outer j)).map Prod.fst =
      ((gather members' outside').log (.child .outer j)).map Prod.fst ∧
    ((gather members outside).log (.child .outer j)).dropLast =
      ((gather members' outside').log (.child .outer j)).dropLast ∧
    ((∀ e e', m.EndsWith e → m.EndsWith e' → e.isPanic = e'.isPanic) →
      (gather members outside).log (.child .outer j) =
        (gather members' outside').log (.child .outer j)) ∧
    ((∀ n x, (TaskId.outer.child j).Above x →
        x ∉ ((start members outside).steps n).deferred) →
      ∀ x, (TaskId.outer.child j).Above x →
        (gather members outside).log x = (gather members' outside').log x) := by
  obtain ⟨e, hends, hlog⟩ := gather_outside members hj
  obtain ⟨e', hends', hlog'⟩ := gather_outside members' hj'
  rw [hlog, hlog']
  refine ⟨Member.map_fst_story m 0 e e', Member.dropLast_story hends hends' 0,
    fun hkind => Member.story_eq hends hends' 0 (hkind e e' hends hends'), fun hsteady x hx => ?_⟩
  exact log_eq_of_steady hj hj' hsteady hx

/-- An operation whose group fails, beside one that panics in the group and beside none. -/
theorem gather_isolated_failing :
    let m : Member := .grouped [2] [.plain [1] (.error "x"), .plain [1, 1] (.ok ())] (.ok ())
    [.plain [3] (.ok ()), m][1]? = some m ∧ [.plain [] (.error "y"), m][1]? = some m ∧
      m.modest = true ∧ ∀ x, (TaskId.outer.child 1).Above x →
        (gather [.plain [1] (.panic "z")] [.plain [3] (.ok ()), m]).log x =
          (gather [] [.plain [] (.error "y"), m]).log x := by
  refine ⟨rfl, rfl, by decide, ?_⟩
  exact (gather_isolated rfl rfl).2.2.2 fun n _ => not_mem_deferred rfl (by decide) n

end Company

set_option maxRecDepth 100000 in
/-- An operation outside that can be stopped by an error and by a panic at one time is stopped by
the one in company and by the other one without. -/
theorem gather_not_isolated :
    let outside : List Member := [.grouped [] [.plain (List.replicate 129 0) (.panic "late"),
      .plain (List.replicate 129 0) (.error "early")] (.ok ())]
    (gather (List.replicate 59 (.plain [] (.ok ()))) outside).log (.child .outer 0) =
        [(0, .start), (0, .panicked)] ∧
      (gather [] outside).log (.child .outer 0) = [(0, .start), (0, .cancelled)] := by
  decide +kernel

end Gathering

end DbLifecycle
