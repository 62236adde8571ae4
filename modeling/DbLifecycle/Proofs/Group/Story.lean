import Mathlib.Algebra.GroupWithZero.Nat
import Mathlib.Data.List.Basic
import DbLifecycle.Group.Gather

/-!
# Stories of operations

What an operation records, and how it ends, if nothing cancels it.

* `Member.duration_eq`, `Member.groupDuration`: how the times of operations and groups are related.
* `Member.EndsWith`: how an operation can end. A group that fails ends as one of its quickest
  failing members does, and which of them that is depends on the order in which they run.
* `Member.story`: what an operation records.
* `Plan`, `plan`: when each task of a gathering begins, and what it carries out.
* `Gathering.log`: what is recorded about a task.
-/

namespace DbLifecycle

namespace Member

/-! ## Parts -/

/-- The members of its group. -/
def children : Member → List Member
  | plain _ _ => []
  | grouped _ ms _ => ms

@[simp]
theorem delays_withDelays (m : Member) (ds : List Nat) : (m.withDelays ds).delays = ds := by
  cases m <;> rfl

@[simp]
theorem children_withDelays (m : Member) (ds : List Nat) :
    (m.withDelays ds).children = m.children := by
  cases m <;> rfl

@[simp]
theorem withDelays_withDelays (m : Member) (ds es : List Nat) :
    (m.withDelays ds).withDelays es = m.withDelays es := by
  cases m <;> rfl

@[simp]
theorem withDelays_delays (m : Member) : m.withDelays m.delays = m := by
  cases m <;> rfl

theorem sizeOf_lt_of_mem_children {m m' : Member} (h : m' ∈ m.children) :
    sizeOf m' < sizeOf m := by
  cases m with
  | plain ds e => cases h
  | grouped ds ms e =>
    have := List.sizeOf_lt_of_mem h
    simp only [children, grouped.sizeOf_spec] at this ⊢
    omega

/-! ## Durations -/

theorem anyFails_iff {ms : List Member} : anyFails ms = true ↔ ∃ m ∈ ms, m.fails = true := by
  induction ms with
  | nil => simp [anyFails]
  | cons m rest ih => simp [anyFails, ih]

theorem anyFails_eq_false_iff {ms : List Member} :
    anyFails ms = false ↔ ∀ m ∈ ms, m.fails = false := by
  rw [← Bool.not_eq_true, anyFails_iff]
  simp

/-- An operation takes its delays, and then as long as its group. -/
theorem duration_eq (m : Member) : m.duration = m.delays.sum + groupDuration m.children := by
  cases m with
  | plain ds e => rfl
  | grouped ds ms e => rfl

theorem delays_sum_le_duration (m : Member) : m.delays.sum ≤ m.duration := by
  rw [duration_eq]
  exact Nat.le_add_right _ _

theorem firstFailure_cons_of_fails {m : Member} (h : m.fails = true) (ms : List Member) :
    firstFailure (m :: ms) = some (least m.duration (firstFailure ms)) := by
  rw [firstFailure, if_pos h]

theorem firstFailure_cons_of_not_fails {m : Member} (h : m.fails = false) (ms : List Member) :
    firstFailure (m :: ms) = firstFailure ms := by
  rw [firstFailure, if_neg (by simp [h])]

/-- The time of the first failure is the least of those of the members that fail. -/
theorem firstFailure_spec (ms : List Member) :
    match firstFailure ms with
    | none => ∀ m ∈ ms, m.fails = false
    | some t => (∃ m ∈ ms, m.fails = true ∧ m.duration = t) ∧
        ∀ m ∈ ms, m.fails = true → t ≤ m.duration := by
  induction ms with
  | nil => simp [firstFailure]
  | cons m ms ih =>
    cases hm : m.fails with
    | false =>
      rw [firstFailure_cons_of_not_fails hm]
      cases hms : firstFailure ms with
      | none => rw [hms] at ih; simpa [hm] using ih
      | some t => rw [hms] at ih; simpa [hm] using ih
    | true =>
      rw [firstFailure_cons_of_fails hm]
      cases hms : firstFailure ms with
      | none =>
        rw [hms] at ih
        refine ⟨⟨m, List.mem_cons_self, hm, rfl⟩, fun m' hm' hf => ?_⟩
        rcases List.mem_cons.mp hm' with rfl | hm'
        · exact Nat.le_refl _
        · rw [ih m' hm'] at hf
          cases hf
      | some t =>
        rw [hms] at ih
        obtain ⟨⟨m₀, hm₀, hf₀, ht₀⟩, hleast⟩ := ih
        refine ⟨?_, fun m' hm' hf => ?_⟩
        · rcases Nat.le_total m.duration t with hle | hle
          · exact ⟨m, List.mem_cons_self, hm, (Nat.min_eq_left hle).symm⟩
          · exact ⟨m₀, List.mem_cons_of_mem _ hm₀, hf₀, ht₀.trans (Nat.min_eq_right hle).symm⟩
        · rcases List.mem_cons.mp hm' with rfl | hm'
          · exact Nat.min_le_left _ _
          · exact Nat.le_trans (Nat.min_le_right _ _) (hleast m' hm' hf)

theorem duration_le_slowest {ms : List Member} {m : Member} (h : m ∈ ms) :
    m.duration ≤ slowest ms := by
  induction ms with
  | nil => cases h
  | cons m' ms ih =>
    rw [slowest]
    rcases List.mem_cons.mp h with rfl | h
    · exact Nat.le_max_left _ _
    · exact Nat.le_trans (ih h) (Nat.le_max_right _ _)

theorem slowest_le {ms : List Member} {t : Nat} (h : ∀ m ∈ ms, m.duration ≤ t) :
    slowest ms ≤ t := by
  induction ms with
  | nil => exact Nat.zero_le t
  | cons m ms ih =>
    rw [slowest]
    exact Nat.max_le.mpr ⟨h m List.mem_cons_self, ih fun m' hm' => h m' (List.mem_cons_of_mem _ hm')⟩

section GroupDuration

variable {ms : List Member}

/-- A group that fails takes as long as one of its members that fail. -/
theorem exists_fails_of_anyFails (h : anyFails ms = true) :
    ∃ m ∈ ms, m.fails = true ∧ m.duration = groupDuration ms := by
  have hspec := firstFailure_spec ms
  unfold groupDuration
  cases hfirst : firstFailure ms with
  | none =>
    rw [hfirst] at hspec
    obtain ⟨m, hm, hf⟩ := anyFails_iff.mp h
    rw [hspec m hm] at hf
    cases hf
  | some t =>
    rw [hfirst] at hspec
    exact hspec.1

/-- No member that fails does so before its group ends. -/
theorem groupDuration_le_of_fails {m : Member} (hm : m ∈ ms) (hf : m.fails = true) :
    groupDuration ms ≤ m.duration := by
  have hspec := firstFailure_spec ms
  unfold groupDuration
  cases hfirst : firstFailure ms with
  | none =>
    rw [hfirst] at hspec
    rw [hspec m hm] at hf
    cases hf
  | some t =>
    rw [hfirst] at hspec
    exact hspec.2 m hm hf

theorem groupDuration_of_not_anyFails (h : anyFails ms = false) :
    groupDuration ms = slowest ms := by
  have hspec := firstFailure_spec ms
  unfold groupDuration
  cases hfirst : firstFailure ms with
  | none => rfl
  | some t =>
    rw [hfirst] at hspec
    obtain ⟨⟨m, hm, hf, -⟩, -⟩ := hspec
    rw [anyFails_eq_false_iff.mp h m hm] at hf
    cases hf

end GroupDuration

/-! ## Endings -/

/-- How an operation can end if nothing cancels it. -/
inductive EndsWith : Member → Ending → Prop
  | plain (ds : List Nat) (e : Ending) : EndsWith (plain ds e) e
  | joined {ms : List Member} (h : anyFails ms = false) (ds : List Nat) (e : Ending) :
      EndsWith (grouped ds ms e) e
  | stopped {ms : List Member} {m : Member} {e' : Ending} (hmem : m ∈ ms) (hfails : m.fails = true)
      (hfirst : m.duration = groupDuration ms) (h : EndsWith m e') (ds : List Nat) (e : Ending) :
      EndsWith (grouped ds ms e) e'

/-- An operation ends with success unless it fails. -/
theorem EndsWith.isOk {m : Member} {e : Ending} (h : m.EndsWith e) : e.isOk = !m.fails := by
  induction h with
  | plain ds e => simp [fails]
  | joined h ds e => simp [fails, h]
  | @stopped ms m e' hmem hfails _ _ ds e ih =>
    have hany : anyFails ms = true := anyFails_iff.mpr ⟨m, hmem, hfails⟩
    simp [fails, hany, ih, hfails]

/-- An operation whose group succeeds can end in one way only. -/
theorem EndsWith.unique {m : Member} {e e' : Ending} (h : m.EndsWith e) (h' : m.EndsWith e')
    (hany : anyFails m.children = false) : e = e' := by
  have hnot : ∀ {ms : List Member} {m' : Member}, anyFails ms = false → m' ∈ ms →
      m'.fails = true → False := fun hany hmem hfails => by
    rw [anyFails_eq_false_iff.mp hany _ hmem] at hfails
    cases hfails
  cases h with
  | plain => cases h'; rfl
  | joined =>
    cases h' with
    | joined => rfl
    | stopped hmem hfails => exact (hnot hany hmem hfails).elim
  | stopped hmem hfails => exact (hnot hany hmem hfails).elim

/-! ## Records -/

/-- The marks of delays, one after another. -/
def stepMarks (t : Nat) : List Nat → List (Nat × Mark)
  | [] => []
  | d :: ds => (t + d, .step) :: stepMarks (t + d) ds

/-- The marks of an operation that has begun, and has some delays before it. -/
def opening (t : Nat) (ds : List Nat) : List (Nat × Mark) := (t, .start) :: stepMarks t ds

/-- The marks of an operation that ends. -/
def closing (m : Member) (t : Nat) (e : Ending) : List (Nat × Mark) :=
  match m with
  | plain _ _ => [(t, .ofEnding e)]
  | grouped _ ms _ =>
    if anyFails ms then [(t, .ofStop e)] else [(t, .groupOk), (t, .ofEnding e)]

/-- The marks of an operation that begins at some time, and that nothing cancels. -/
def story (m : Member) (t : Nat) (e : Ending) : List (Nat × Mark) :=
  opening t m.delays ++ closing m (t + m.duration) e

theorem stepMarks_append (t : Nat) (ds es : List Nat) :
    stepMarks t (ds ++ es) = stepMarks t ds ++ stepMarks (t + ds.sum) es := by
  induction ds generalizing t with
  | nil => rfl
  | cons d ds ih => simp [stepMarks, ih, Nat.add_assoc]

theorem opening_concat (t : Nat) (ds : List Nat) (d : Nat) :
    opening t (ds ++ [d]) = opening t ds ++ [(t + (ds.sum + d), .step)] := by
  simp [opening, stepMarks_append, stepMarks, Nat.add_assoc]

/-- The number of last marks. -/
def endings (l : List (Nat × Mark)) : Nat := l.countP (·.2.isLast)

theorem endings_append (l k : List (Nat × Mark)) : endings (l ++ k) = endings l + endings k :=
  List.countP_append

/-- An operation that goes on has not ended. -/
theorem endings_opening (t : Nat) (ds : List Nat) : endings (opening t ds) = 0 := by
  have hsteps : ∀ t, endings (stepMarks t ds) = 0 := by
    induction ds with
    | nil => exact fun _ => rfl
    | cons d ds ih => exact fun t => ih (t + d)
  exact hsteps t

/-- An operation that ends does so once. -/
theorem endings_closing (m : Member) (t : Nat) (e : Ending) : endings (m.closing t e) = 1 := by
  cases m with
  | plain => cases e <;> rfl
  | grouped ds ms e' =>
    rw [closing]
    split <;> cases e <;> rfl

/-- The marks of the end of an operation come at one time. -/
theorem map_fst_closing (m : Member) (t : Nat) (e e' : Ending) :
    (m.closing t e).map Prod.fst = (m.closing t e').map Prod.fst := by
  cases m with
  | plain => rfl
  | grouped ds ms e' =>
    rw [closing, closing]
    split <;> rfl

theorem map_fst_story (m : Member) (t : Nat) (e e' : Ending) :
    (m.story t e).map Prod.fst = (m.story t e').map Prod.fst := by
  rw [story, story, List.map_append, List.map_append, map_fst_closing m _ e e']

section Ends

variable {m : Member} {e e' : Ending}

/-- Only the last mark tells how an operation ends. -/
theorem dropLast_story (h : m.EndsWith e) (h' : m.EndsWith e') (t : Nat) :
    (m.story t e).dropLast = (m.story t e').dropLast := by
  have hclosing : ∀ u, (m.closing u e).dropLast = (m.closing u e').dropLast ∧
      m.closing u e ≠ [] ∧ m.closing u e' ≠ [] := fun u => by
    cases m with
    | plain => exact ⟨rfl, nofun, nofun⟩
    | grouped ds ms e' =>
      rw [closing, closing]
      split <;> exact ⟨rfl, nofun, nofun⟩
  obtain ⟨heq, hne, hne'⟩ := hclosing (t + m.duration)
  rw [story, story, List.dropLast_append_of_ne_nil hne, List.dropLast_append_of_ne_nil hne', heq]

/-- Two ends of an operation leave the same marks if both are panics, or none is. -/
theorem story_eq (h : m.EndsWith e) (h' : m.EndsWith e') (t : Nat)
    (hpanic : e.isPanic = e'.isPanic) : m.story t e = m.story t e' := by
  cases hany : anyFails m.children with
  | false => rw [h.unique h' hany]
  | true =>
    cases m with
    | plain => cases hany
    | grouped ds ms e₀ =>
      have hstop : Mark.ofStop e = Mark.ofStop e' := by
        cases e <;> cases e' <;> first | rfl | cases hpanic
      have hany' : anyFails ms = true := hany
      rw [story, story, closing, closing, if_pos hany', if_pos hany', hstop]

end Ends

theorem endings_story (m : Member) (t : Nat) (e : Ending) : endings (m.story t e) = 1 := by
  rw [story, endings_append, endings_opening, endings_closing]

end Member

/-! ## Plans -/

/-- When tasks begin, and what they carry out. -/
abbrev Plan := TaskId → Option (Nat × Member)

namespace Member

/-- The member of a group at a place; its group begins when the delays of its owner are over. -/
def childAt (p : Nat × Member) (i : Nat) : Option (Nat × Member) :=
  p.2.children[i]?.map fun m => (p.1 + p.2.delays.sum, m)

/-- The operation at the end of a way through groups. -/
def descend (p : Nat × Member) : List Nat → Option (Nat × Member)
  | [] => some p
  | i :: path => (childAt p i).bind fun q => descend q path

theorem descend_concat (p : Nat × Member) (path : List Nat) (i : Nat) :
    descend p (path ++ [i]) = (descend p path).bind fun q => childAt q i := by
  induction path generalizing p with
  | nil => simp [descend]
  | cons j path ih =>
    rw [List.cons_append, descend, descend]
    cases childAt p j with
    | none => rfl
    | some q => exact ih q

end Member

/-- The tasks of a group and those outside of it. What stands above them is taken for an operation
without delays. -/
def plan (members outside : List Member) : Plan := fun id =>
  Member.descend (0, .grouped [] (if id.outside then outside else members) (.ok ())) id.path

theorem plan_child (members outside : List Member) (id : TaskId) (i : Nat) :
    plan members outside (id.child i) =
      (plan members outside id).bind fun p => Member.childAt p i :=
  Member.descend_concat _ _ _

theorem plan_root (members outside : List Member) :
    plan members outside .root = some (0, .grouped [] members (.ok ())) := rfl

theorem plan_outer (members outside : List Member) :
    plan members outside .outer = some (0, .grouped [] outside (.ok ())) := rfl

/-! ## Logs -/

/-- What an entry says about a task. -/
def Entry.about (id : TaskId) : Entry → Option (Nat × Mark)
  | mark t id' what => if id' = id then some (t, what) else none
  | cancelling _ _ => none

/-- The marks of a task in some records. -/
def marksOf (id : TaskId) (es : List Entry) : List (Nat × Mark) := es.filterMap (Entry.about id)

theorem marksOf_append (id : TaskId) (es fs : List Entry) :
    marksOf id (es ++ fs) = marksOf id es ++ marksOf id fs :=
  List.filterMap_append

namespace Gathering

/-- All that is recorded. -/
def records (g : Gathering) : List Entry :=
  match g.returned with
  | none => g.entries
  | some _ => g.entries ++ g.later

/-- What is recorded about a task. -/
def log (g : Gathering) (id : TaskId) : List (Nat × Mark) := marksOf id g.records

end Gathering

end DbLifecycle
