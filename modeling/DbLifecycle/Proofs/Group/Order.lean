import Mathlib.Data.List.Lex
import DbLifecycle.Proofs.Group.Story

/-!
# Turns and their order

An operation without a group has a turn when it starts and whenever a delay is over. Of two that
have a turn at the same time, the one goes first that fell asleep first: whose turn before was
earlier or, if that was at the same time, came first there. Operations that have had all their turns
at the same times go in the order of their places.

* `Member.turns`: when an operation has a turn, the last time first.
* `Ahead`: the order, by the turns and the places.
* `Member.turns_upTo_next`, `Member.turns_upTo_gap`: what passing time adds to the turns.
* `Member.pause?`: when an operation first gives way because it has too much to do.
* `Member.opening_filter`: what is recorded of an operation up to a time.
-/

namespace DbLifecycle

namespace Member

/-! ## Operations without a group -/

/-- Whether an operation has no group. -/
def isFlat : Member → Bool
  | plain _ _ => true
  | grouped _ _ _ => false

/-- How an operation ends when it has got through its delays and its group has succeeded. -/
def ending : Member → Ending
  | plain _ e => e
  | grouped _ _ e => e

section Flat

variable {m : Member} (h : m.isFlat = true)
include h

theorem fails_of_isFlat : m.fails = !m.ending.isOk := by
  cases m with
  | plain => rfl
  | grouped => cases h

theorem duration_of_isFlat : m.duration = m.delays.sum := by
  cases m with
  | plain => rfl
  | grouped => cases h

theorem story_of_isFlat :
    m.story 0 m.ending = opening 0 m.delays ++ [(m.duration, .ofEnding m.ending)] := by
  cases m with
  | plain => simp [story, closing]
  | grouped => cases h

end Flat

/-! ## Turns -/

/-- The turns of an operation that has some delays before it, the last first. -/
def turnsFrom (now : Nat) (past : List Nat) : List Nat → List Nat
  | [] => now :: past
  | d :: ds => if d = 0 then turnsFrom now past ds else turnsFrom (now + d) (now :: past) ds

/-- The times at which an operation without a group has a turn, the last first. -/
def turns (m : Member) : List Nat := turnsFrom 0 [] m.delays

theorem mem_turnsFrom {now v : Nat} {past ds : List Nat} : v ∈ turnsFrom now past ds ↔
    v ∈ past ∨ ∃ done rest, ds = done ++ rest ∧ v = now + done.sum := by
  induction ds generalizing now past with
  | nil =>
    rw [turnsFrom, List.mem_cons, or_comm]
    refine or_congr_right ⟨fun heq => ⟨[], [], rfl, heq⟩, fun ⟨done, rest, hnil, heq⟩ => ?_⟩
    rw [heq, (List.append_eq_nil_iff.mp hnil.symm).1]
    rfl
  | cons d ds ih =>
    have hsplit : (∃ done rest, d :: ds = done ++ rest ∧ v = now + done.sum) ↔
        v = now ∨ ∃ done rest, ds = done ++ rest ∧ v = now + d + done.sum := by
      constructor
      · rintro ⟨done, rest, heq, hv⟩
        cases done with
        | nil => exact .inl hv
        | cons d' done =>
          obtain ⟨rfl, rfl⟩ := List.cons.inj heq
          exact .inr ⟨done, rest, rfl, by rw [hv, List.sum_cons, Nat.add_assoc]⟩
      · rintro (rfl | ⟨done, rest, rfl, rfl⟩)
        · exact ⟨[], d :: ds, rfl, rfl⟩
        · exact ⟨d :: done, rest, rfl, by rw [List.sum_cons, Nat.add_assoc]⟩
    rw [turnsFrom, hsplit]
    split
    · rename_i hzero
      subst hzero
      rw [ih, Nat.add_zero]
      refine or_congr_right ⟨.inr, ?_⟩
      rintro (rfl | hrest)
      · exact ⟨[], ds, rfl, rfl⟩
      · exact hrest
    · rw [ih, List.mem_cons, or_assoc, or_left_comm]

/-- An operation has a turn when it has got through some of its delays. -/
theorem mem_turns {m : Member} {v : Nat} :
    v ∈ m.turns ↔ ∃ done rest, m.delays = done ++ rest ∧ v = done.sum := by
  simp [turns, mem_turnsFrom]

theorem turnsFrom_pairwise {now : Nat} {past : List Nat} (h : (now :: past).Pairwise (· > ·))
    (ds : List Nat) : (turnsFrom now past ds).Pairwise (· > ·) := by
  induction ds generalizing now past with
  | nil => exact h
  | cons d ds ih =>
    rw [turnsFrom]
    split
    · exact ih h
    · refine ih (List.pairwise_cons.mpr ⟨fun v hv => ?_, h⟩)
      have hle : v ≤ now := by
        rcases List.mem_cons.mp hv with rfl | hv
        · exact Nat.le_refl _
        · exact Nat.le_of_lt ((List.pairwise_cons.mp h).1 v hv)
      omega

/-- No turn is told twice, and later ones come first. -/
theorem turns_pairwise (m : Member) : m.turns.Pairwise (· > ·) :=
  turnsFrom_pairwise (List.pairwise_singleton _ _) _

theorem le_of_mem_turns {m : Member} {v : Nat} (h : v ∈ m.turns) : v ≤ m.delays.sum := by
  obtain ⟨done, rest, hdelays, rfl⟩ := mem_turns.mp h
  rw [hdelays, List.sum_append]
  exact Nat.le_add_right _ _

theorem zero_mem_turns (m : Member) : 0 ∈ m.turns := mem_turns.mpr ⟨[], m.delays, rfl, rfl⟩

theorem sum_mem_turns (m : Member) : m.delays.sum ∈ m.turns :=
  mem_turns.mpr ⟨m.delays, [], by simp, rfl⟩

/-- After a turn comes the one when the next delay is over. -/
theorem next_turn {m : Member} {done rest : List Nat} {d : Nat}
    (hdelays : m.delays = done ++ d :: rest) : done.sum + d ∈ m.turns ∧
      ∀ v ∈ m.turns, done.sum < v → done.sum + d ≤ v := by
  refine ⟨mem_turns.mpr ⟨done ++ [d], rest, by simp [hdelays], by simp⟩, fun v hv hlt => ?_⟩
  obtain ⟨done', rest', hdelays', rfl⟩ := mem_turns.mp hv
  rw [hdelays] at hdelays'
  rcases List.append_eq_append_iff.mp hdelays' with ⟨more, rfl, hrest⟩ | ⟨more, rfl, -⟩
  · cases more with
    | nil => simp at hlt
    | cons d' more =>
      obtain ⟨rfl, -⟩ := List.cons.inj hrest
      rw [List.sum_append, List.sum_cons]
      omega
  · rw [List.sum_append] at hlt
    omega

section UpTo

variable {m : Member} {now t : Nat}

theorem filter_le_of_next {l : List Nat} (h : l.Pairwise (· > ·)) (hmem : t ∈ l) (hlt : now < t)
    (hnext : ∀ v ∈ l, now < v → t ≤ v) :
    l.filter (· ≤ t) = t :: l.filter (· ≤ now) := by
  induction l with
  | nil => cases hmem
  | cons a l ih =>
    obtain ⟨hbelow, h⟩ := List.pairwise_cons.mp h
    by_cases ha : a = t
    · subst ha
      have hold : ∀ v ∈ l, v ≤ now := fun v hv => by
        have hv' := hbelow v hv
        have := hnext v (List.mem_cons_of_mem _ hv)
        omega
      rw [List.filter_cons_of_pos (by simp), List.filter_cons_of_neg (by simpa using hlt),
        List.filter_eq_self.mpr fun v hv => by simpa using Nat.le_of_lt (hbelow v hv),
        List.filter_eq_self.mpr fun v hv => by simpa using hold v hv]
    · have hmem' := (List.mem_cons.mp hmem).resolve_left fun heq => ha heq.symm
      have hta : t < a := hbelow t hmem'
      rw [List.filter_cons_of_neg (by simpa using hta),
        List.filter_cons_of_neg (by simpa using Nat.lt_trans hlt hta)]
      exact ih h hmem' fun v hv => hnext v (List.mem_cons_of_mem _ hv)

/-- When an operation has its next turn, that is one more. -/
theorem turns_upTo_next (hmem : t ∈ m.turns) (hlt : now < t)
    (hnext : ∀ v ∈ m.turns, now < v → t ≤ v) :
    m.turns.filter (· ≤ t) = t :: m.turns.filter (· ≤ now) :=
  filter_le_of_next m.turns_pairwise hmem hlt hnext

/-- While an operation has no turn, there are no more. -/
theorem turns_upTo_gap (hle : now ≤ t) (hgap : ∀ v ∈ m.turns, now < v → t < v) :
    m.turns.filter (· ≤ t) = m.turns.filter (· ≤ now) := by
  refine List.filter_congr fun v hv => ?_
  have := hgap v hv
  rw [decide_eq_decide]
  omega

/-- At the beginning there is one turn. -/
theorem turns_upTo_zero (m : Member) : m.turns.filter (· ≤ 0) = [0] := by
  have hsorted := m.turns_pairwise.filter (· ≤ 0)
  have hmem : 0 ∈ m.turns.filter (· ≤ 0) := List.mem_filter.mpr ⟨m.zero_mem_turns, rfl⟩
  have hzero : ∀ v ∈ m.turns.filter (· ≤ 0), v = 0 := fun v hv => by
    simpa using (List.mem_filter.mp hv).2
  cases hturns : m.turns.filter (· ≤ 0) with
  | nil =>
    rw [hturns] at hmem
    cases hmem
  | cons a l =>
    rw [hturns] at hsorted hzero
    have ha := hzero a List.mem_cons_self
    have hnil : l = [] := List.eq_nil_iff_forall_not_mem.mpr fun b hb => by
      have hlt := (List.pairwise_cons.mp hsorted).1 b hb
      rw [ha] at hlt
      exact Nat.not_lt_zero b hlt
    rw [ha, hnil]

/-- An operation that has ended has had all its turns. -/
theorem turns_upTo_of_le (h : m.delays.sum ≤ t) : m.turns.filter (· ≤ t) = m.turns :=
  List.filter_eq_self.mpr fun v hv => by simpa using Nat.le_trans (le_of_mem_turns hv) h

/-- An operation that ends has its last turn then. -/
theorem exists_turns_eq_cons (m : Member) : ∃ past, m.turns = m.delays.sum :: past := by
  have hsorted := m.turns_pairwise
  cases hturns : m.turns with
  | nil =>
    have hmem := m.sum_mem_turns
    rw [hturns] at hmem
    cases hmem
  | cons a past =>
    rw [hturns, List.pairwise_cons] at hsorted
    have hle : a ≤ m.delays.sum := le_of_mem_turns (by rw [hturns]; exact List.mem_cons_self)
    have hmem := m.sum_mem_turns
    rw [hturns] at hmem
    rcases List.mem_cons.mp hmem with heq | hmem
    · exact ⟨past, by rw [heq]⟩
    · have := hsorted.1 _ hmem
      omega

end UpTo

/-! ## Giving way -/

/-- When an operation with some delays before it first gives way, if it can still do so much in this
turn. -/
def pauseFrom (now left : Nat) : List Nat → Option Nat
  | [] => none
  | d :: ds =>
    if left = 0 then some now
    else pauseFrom (now + d) (if d = 0 then left - 1 else stamina - 1) ds

/-- When an operation without a group first gives way, as it has more delays to deal with in one
turn than it can. -/
def pause? (m : Member) : Option Nat := pauseFrom 0 stamina m.delays

/-- An operation that has not given way can do as much as ever after its next delay. -/
theorem pauseFrom_append {now left t d : Nat} {done rest : List Nat}
    (h : ∀ u ∈ pauseFrom now left (done ++ d :: rest), t < u) (ht : now + done.sum ≤ t)
    (hd : 0 < d) : pauseFrom now left (done ++ d :: rest) =
      pauseFrom (now + done.sum + d) (stamina - 1) rest := by
  have hleft : ∀ {now left d : Nat} {ds : List Nat},
      (∀ u ∈ pauseFrom now left (d :: ds), t < u) → now ≤ t → left ≠ 0 :=
    fun {now left d ds} h hle hzero => by
      rw [pauseFrom, if_pos hzero] at h
      exact absurd (h now rfl) (by omega)
  induction done generalizing now left with
  | nil =>
    rw [List.nil_append] at h ⊢
    rw [pauseFrom, if_neg (hleft h (by simpa using ht)), if_neg (Nat.ne_of_gt hd)]
    rfl
  | cons d' done ih =>
    rw [List.cons_append] at h ⊢
    rw [List.sum_cons] at ht ⊢
    have hne := hleft h (by omega)
    rw [pauseFrom, if_neg hne] at h ⊢
    rw [ih h (by omega), Nat.add_assoc now d']

/-- An operation gives way when it has done as much as it can, and has a delay before it. -/
theorem pauseFrom_replicate (now left d : Nat) (rest : List Nat) :
    pauseFrom now left (List.replicate left 0 ++ d :: rest) = some now := by
  induction left with
  | zero => rfl
  | succ left ih =>
    rw [List.replicate_succ, List.cons_append, pauseFrom, if_neg (Nat.succ_ne_zero left),
      if_pos rfl]
    exact ih

/-! ## Records up to a time -/

theorem le_of_mem_stepMarks {t : Nat} {ds : List Nat} {p : Nat × Mark} (h : p ∈ stepMarks t ds) :
    t ≤ p.1 ∧ p.1 ≤ t + ds.sum := by
  induction ds generalizing t with
  | nil => cases h
  | cons d ds ih =>
    rw [List.sum_cons]
    rcases List.mem_cons.mp h with rfl | h
    · exact ⟨Nat.le_add_right _ _, by dsimp only; omega⟩
    · have := ih h
      omega

/-- Steps are told when their delays are over. -/
theorem le_of_mem_opening {t : Nat} {ds : List Nat} {p : Nat × Mark} (h : p ∈ opening t ds) :
    t ≤ p.1 ∧ p.1 ≤ t + ds.sum := by
  rcases List.mem_cons.mp h with rfl | h
  · exact ⟨Nat.le_refl _, Nat.le_add_right _ _⟩
  · exact le_of_mem_stepMarks h

theorem opening_append (t : Nat) (done rest : List Nat) :
    opening t (done ++ rest) = opening t done ++ stepMarks (t + done.sum) rest := by
  rw [opening, stepMarks_append, opening, List.cons_append]

/-- What is recorded of an operation in its first turns. -/
theorem opening_filter {done rest : List Nat} {p : Nat × Mark → Bool}
    (hdone : ∀ q : Nat × Mark, q.1 ≤ done.sum → p q = true)
    (hrest : ∀ q ∈ stepMarks done.sum rest, p q = false) :
    (opening 0 (done ++ rest)).filter p = opening 0 done := by
  rw [opening_append, List.filter_append, Nat.zero_add,
    List.filter_eq_self.mpr fun q hq => hdone q (by simpa using (le_of_mem_opening hq).2),
    List.filter_eq_nil_iff.mpr fun q hq => by simp [hrest q hq], List.append_nil]

end Member

/-! ## Order -/

/-- Which of two places comes first by the turns there: the one whose last turn is earlier or, if it
is at the same time, whose turn before that is, and so on; if all are at the same times, the first
of them. -/
def Ahead (turns : Nat → List Nat) (i j : Nat) : Prop :=
  turns i < turns j ∨ turns i = turns j ∧ i < j

instance (turns : Nat → List Nat) (i j : Nat) : Decidable (Ahead turns i j) :=
  inferInstanceAs (Decidable (_ ∨ _))

namespace Ahead

variable {turns : Nat → List Nat} {i j k : Nat}

theorem irrefl (turns : Nat → List Nat) (i : Nat) : ¬ Ahead turns i i := by
  rintro (h | ⟨-, h⟩)
  · exact List.lt_irrefl _ h
  · exact Nat.lt_irrefl _ h

theorem trans (h : Ahead turns i j) (h' : Ahead turns j k) : Ahead turns i k := by
  rcases h with h | ⟨heq, h⟩
  · rcases h' with h' | ⟨heq', -⟩
    · exact .inl (List.lt_trans h h')
    · exact .inl (heq' ▸ h)
  · rcases h' with h' | ⟨heq', h'⟩
    · exact .inl (heq ▸ h')
    · exact .inr ⟨heq.trans heq', Nat.lt_trans h h'⟩

theorem asymm (h : Ahead turns i j) : ¬ Ahead turns j i := fun h' => irrefl turns i (h.trans h')

theorem ne (h : Ahead turns i j) : i ≠ j := fun heq => irrefl turns j (heq ▸ h)

/-- Whoever had the last turn before the other one's comes first. -/
theorem of_forall_lt {t : Nat} {past : List Nat} (hi : ∀ v ∈ turns i, v < t)
    (hj : turns j = t :: past) : Ahead turns i j := by
  left
  rw [hj]
  cases hturns : turns i with
  | nil => exact List.nil_lt_cons t past
  | cons a l =>
    rw [hturns] at hi
    exact List.cons_lt_cons_iff.mpr (.inl (hi a List.mem_cons_self))

/-- The order of two places depends on their turns only. -/
theorem congr {turns' : Nat → List Nat} (hi : turns' i = turns i) (hj : turns' j = turns j)
    (h : Ahead turns i j) : Ahead turns' i j := by
  rwa [Ahead, hi, hj]

/-- One more turn at the same time changes nothing. -/
theorem cons {turns' : Nat → List Nat} {t : Nat} (hi : turns' i = t :: turns i)
    (hj : turns' j = t :: turns j) (h : Ahead turns i j) : Ahead turns' i j := by
  rw [Ahead, hi, hj]
  rcases h with h | ⟨heq, h⟩
  · exact .inl (List.cons_lt_cons_iff.mpr (.inr ⟨rfl, h⟩))
  · exact .inr ⟨by rw [heq], h⟩

theorem total (turns : Nat → List Nat) (h : i ≠ j) : Ahead turns i j ∨ Ahead turns j i := by
  by_cases heq : turns i = turns j
  · exact (Nat.lt_or_gt_of_ne h).imp (fun hlt => .inr ⟨heq, hlt⟩) fun hlt => .inr ⟨heq.symm, hlt⟩
  · exact (lt_or_gt_of_ne heq).imp .inl .inl

/-- Whoever comes first has had its last turn when the other one has its last. -/
theorem le_of_cons {t u : Nat} {past past' : List Nat} (hi : turns i = t :: past)
    (hj : turns j = u :: past') (h : Ahead turns i j) : t ≤ u := by
  rw [Ahead, hi, hj] at h
  rcases h with hlt | ⟨heq, -⟩
  · rcases List.cons_lt_cons_iff.mp hlt with hlt | ⟨heq, -⟩
    · exact Nat.le_of_lt hlt
    · exact Nat.le_of_eq heq
  · exact Nat.le_of_eq (List.cons.inj heq).1

end Ahead

/-- The turns of the members of a group. -/
def turnsOf (ms : List Member) (i : Nat) : List Nat := (ms[i]?.map Member.turns).getD []

/-- The turns of the members of a group up to a time. -/
def turnsUpTo (ms : List Member) (t i : Nat) : List Nat := (turnsOf ms i).filter (· ≤ t)

theorem turnsOf_of_getElem? {ms : List Member} {i : Nat} {m : Member} (h : ms[i]? = some m) :
    turnsOf ms i = m.turns := by
  rw [turnsOf, h]
  rfl

theorem turnsUpTo_of_getElem? {ms : List Member} {i : Nat} {m : Member} (h : ms[i]? = some m)
    (t : Nat) : turnsUpTo ms t i = m.turns.filter (· ≤ t) := by
  rw [turnsUpTo, turnsOf_of_getElem? h]

/-- By the end of an operation, all its turns have been. -/
theorem turnsUpTo_of_le {ms : List Member} {i : Nat} {m : Member} (h : ms[i]? = some m) {t : Nat}
    (hle : m.delays.sum ≤ t) : turnsUpTo ms t i = turnsOf ms i := by
  rw [turnsUpTo_of_getElem? h, turnsOf_of_getElem? h, Member.turns_upTo_of_le hle]

end DbLifecycle
