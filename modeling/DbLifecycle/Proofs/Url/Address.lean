import Mathlib.Data.List.TakeWhile
import Mathlib.Tactic.Ring
import DbLifecycle.Proofs.Text.Digits
import DbLifecycle.Url.Address

/-!
# Addresses are read as they are written

An address of eight pieces has many written forms. It is always written in the same one, and that is
read as the same eight pieces.

* `Address.Formed`: eight pieces of sixteen bits each.
* `Address.formed_of_parse?`: what is read is well formed.
* `Address.run_of_longestRun`: the run that is left out is one of zeros.
* **`Address.parse?_chars`**: reading undoes writing.
* `Address.mem_chars`: the characters of the written form.
-/

namespace DbLifecycle

namespace Url.Address

/-- Eight pieces of sixteen bits each. -/
structure Formed (ps : List Nat) : Prop where
  length : ps.length = 8
  lt : ∀ p ∈ ps, p < 0x10000

/-! ## Digits -/

/-- The number that hexadecimal digits write after those that wrote another. -/
def number (acc : Nat) (ds : List Char) : Nat :=
  ds.foldl (fun n d => 16 * n + (Text.hexValue? d).getD 0) acc

theorem number_toDigits (p : Nat) : number 0 (Nat.toDigits 16 p) = p := by
  induction p using Nat.strongRecOn with
  | ind p ih =>
    rw [Nat.toDigits_eq_if (by decide)]
    split
    · rename_i hp
      simp [number, Text.hexValue?_digitChar hp]
    · have hlast := Text.hexValue?_digitChar (Nat.mod_lt p (show 0 < 16 by decide))
      have hrest := ih (p / 16) (by omega)
      rw [number, List.foldl_append]
      rw [number] at hrest
      rw [hrest, List.foldl_cons, List.foldl_nil, hlast, Option.getD_some]
      omega

theorem hexRun_append {ds rest : List Char} (hds : ∀ d ∈ ds, (Text.hexValue? d).isSome)
    (hrest : ∀ c ∈ rest.head?, Text.hexValue? c = none) {n : Nat} (hn : ds.length ≤ n)
    (acc : Nat) : hexRun n (ds ++ rest) acc = (number acc ds, ds.length, rest) := by
  induction ds generalizing n acc with
  | nil =>
    cases n with
    | zero => rfl
    | succ n =>
      cases rest with
      | nil => rfl
      | cons c r => simp [hexRun, hrest c (by simp), number]
  | cons d ds ih =>
    obtain ⟨v, hv⟩ := Option.isSome_iff_exists.mp (hds d (by simp))
    cases n with
    | zero => cases hn
    | succ n =>
      have htail := ih (fun d' hd' => hds d' (by simp [hd'])) (Nat.le_of_succ_le_succ hn)
        (16 * acc + v)
      simp [hexRun, hv, htail, number]

/-- A piece is read up to a colon or the end. -/
theorem hexRun_toDigits {p : Nat} (hp : p < 0x10000) (rest : List Char)
    (hrest : ∀ c ∈ rest.head?, c = ':') :
    hexRun 4 (Nat.toDigits 16 p ++ rest) 0 = (p, (Nat.toDigits 16 p).length, rest) := by
  have hlength : (Nat.toDigits 16 p).length ≤ 4 :=
    (Nat.length_toDigits_le_iff (by decide) (by decide)).mpr hp
  have hdigits : ∀ d ∈ Nat.toDigits 16 p, (Text.hexValue? d).isSome := by
    intro d hd
    obtain ⟨n, hn, rfl⟩ := Text.exists_digitChar_of_mem (by decide) hd
    rw [Text.hexValue?_digitChar hn]
    rfl
  have hcolon : ∀ c ∈ rest.head?, Text.hexValue? c = none := by
    intro c hc
    rw [hrest c hc]
    decide
  rw [hexRun_append hdigits hcolon hlength, number_toDigits]

theorem exists_toDigits_eq_cons (p : Nat) :
    ∃ d r, Nat.toDigits 16 p = d :: r ∧ d ≠ ':' := by
  cases h : Nat.toDigits 16 p with
  | nil => exact absurd h Nat.toDigits_ne_nil
  | cons d r =>
    obtain ⟨n, hn, rfl⟩ :=
      Text.exists_digitChar_of_mem (b := 16) (p := p) (c := d) (by decide) (by simp [h])
    refine ⟨_, r, rfl, ?_⟩
    clear h
    revert n
    decide

/-! ## Pieces -/

section Pieces

variable {fuel p : Nat} {done : List Nat} {gap : Option Nat}

/-- A piece and a colon, with more behind it. -/
theorem pieces_cons (hp : p < 0x10000) (hplace : position done gap < 8) {r : List Char}
    (hr : r ≠ []) : pieces (fuel + 1) (Nat.toDigits 16 p ++ ':' :: r) done gap =
      pieces fuel r (done ++ [p]) gap := by
  have hrun := hexRun_toDigits hp (':' :: r) (by simp)
  obtain ⟨d, ds, hds, hd⟩ := exists_toDigits_eq_cons p
  rw [hds] at hrun ⊢
  rw [List.cons_append] at hrun ⊢
  rw [pieces, if_neg (Nat.not_le.mpr hplace), if_neg hd]
  simp only [hrun, List.length_cons, Nat.succ_ne_zero, false_or, List.isEmpty_iff, if_neg hr]

/-- The last piece. -/
theorem pieces_last (hp : p < 0x10000) (hplace : position done gap < 8) :
    pieces (fuel + 1) (Nat.toDigits 16 p) done gap = fill (done ++ [p]) gap := by
  have hrun := hexRun_toDigits hp [] (by simp)
  obtain ⟨d, ds, hds, hd⟩ := exists_toDigits_eq_cons p
  rw [hds, List.append_nil] at hrun
  rw [hds, pieces, if_neg (Nat.not_le.mpr hplace), if_neg hd]
  simp only [hrun, List.length_cons, Nat.succ_ne_zero, if_false]

end Pieces

theorem position_append (done ps : List Nat) (gap : Option Nat) :
    position (done ++ ps) gap = position done gap + ps.length := by
  unfold position
  rw [List.length_append]
  omega

theorem joined_cons_cons (p q : Nat) (ps : List Nat) :
    joined (p :: q :: ps) = Nat.toDigits 16 p ++ ':' :: joined (q :: ps) := by
  simp [joined, List.intercalate_cons_cons]

theorem joined_singleton (p : Nat) : joined [p] = Nat.toDigits 16 p := by
  simp [joined]

theorem exists_joined_eq_cons (p : Nat) (ps : List Nat) :
    ∃ d r, joined (p :: ps) = d :: r ∧ d ≠ ':' := by
  obtain ⟨d, ds, hds, hd⟩ := exists_toDigits_eq_cons p
  cases ps with
  | nil => exact ⟨d, ds, by rw [joined_singleton, hds], hd⟩
  | cons q ps => exact ⟨d, _, by rw [joined_cons_cons, hds]; rfl, hd⟩

/-- Pieces up to the end. -/
theorem pieces_joined {ps : List Nat} (hps : ∀ p ∈ ps, p < 0x10000) {fuel : Nat} {done : List Nat}
    {gap : Option Nat} (hplace : position done gap + ps.length ≤ 8) (hfuel : ps.length < fuel) :
    pieces fuel (joined ps) done gap = fill (done ++ ps) gap := by
  induction ps generalizing fuel done with
  | nil =>
    obtain ⟨fuel, rfl⟩ := Nat.exists_eq_succ_of_ne_zero (Nat.ne_zero_of_lt hfuel)
    rw [List.append_nil]
    rfl
  | cons p ps ih =>
    obtain ⟨fuel, rfl⟩ := Nat.exists_eq_succ_of_ne_zero (Nat.ne_zero_of_lt hfuel)
    have hp := hps p (by simp)
    rw [List.length_cons] at hplace hfuel
    cases ps with
    | nil =>
      rw [joined_singleton]
      exact pieces_last hp (by omega)
    | cons q ps =>
      obtain ⟨d, r, hr, -⟩ := exists_joined_eq_cons q ps
      have hplace' : position (done ++ [p]) gap + (q :: ps).length ≤ 8 := by
        rw [position_append, List.length_singleton]
        omega
      rw [joined_cons_cons, pieces_cons hp (by omega) (by rw [hr]; simp),
        ih (fun x hx => hps x (List.mem_cons_of_mem _ hx)) hplace' (by omega),
        List.append_assoc, List.singleton_append]

/-- Pieces up to the two colons. -/
theorem pieces_gap {p : Nat} {ps : List Nat} (hps : ∀ x ∈ p :: ps, x < 0x10000) (fuel : Nat)
    {done : List Nat} (hplace : done.length + (p :: ps).length < 8) (r : List Char) :
    pieces (fuel + (p :: ps).length + 1) (joined (p :: ps) ++ ':' :: ':' :: r) done none =
      pieces fuel r (done ++ p :: ps) (some (done ++ p :: ps).length) := by
  induction ps generalizing p done with
  | nil =>
    have hp := hps p (by simp)
    have hlt : position done none < 8 := by simp [position] at hplace ⊢; omega
    rw [joined_singleton, pieces_cons hp hlt (by simp), List.length_singleton]
    have hcolon : position (done ++ [p]) none < 8 := by simp [position] at hplace ⊢; omega
    rw [pieces, if_neg (Nat.not_le.mpr hcolon), if_pos rfl]
    rfl
  | cons q ps ih =>
    have hp := hps p (by simp)
    have hlt : position done none < 8 := by simp [position] at hplace ⊢; omega
    obtain ⟨d, t, ht, -⟩ := exists_joined_eq_cons q ps
    have hrest : (done ++ [p]).length + (q :: ps).length < 8 := by simp at hplace ⊢; omega
    rw [joined_cons_cons, List.append_assoc, List.cons_append,
      pieces_cons hp hlt (by rw [ht]; simp)]
    have htail := ih (fun x hx => hps x (List.mem_cons_of_mem _ hx)) hrest
    rw [List.append_assoc, List.singleton_append] at htail
    exact htail

/-! ## The run that is left out -/

theorem take_zeros (ps : List Nat) : ps.take (zeros ps) = List.replicate (zeros ps) 0 := by
  have htake : ps.take (zeros ps) = ps.takeWhile (· == 0) := by
    unfold zeros
    exact List.prefix_iff_eq_take.mp (List.takeWhile_prefix _) |>.symm
  refine List.eq_replicate_iff.mpr ⟨?_, fun p hp => ?_⟩
  · rw [htake]
    rfl
  · rw [htake] at hp
    simpa using List.mem_takeWhile_imp hp

/-- **The run that is left out is one of zeros.** -/
theorem run_of_longestRun {ps : List Nat} {start length : Nat}
    (h : longestRun ps = some (start, length)) :
    2 ≤ length ∧ (ps.drop start).take length = List.replicate length 0 := by
  have hfold : ∀ (is : List Nat) (best : Option (Nat × Nat)),
      (∀ r ∈ best, 2 ≤ r.2 ∧ r.2 = zeros (ps.drop r.1)) →
      ∀ r ∈ is.foldl (fun best i =>
        let n := zeros (ps.drop i)
        if 2 ≤ n ∧ (best.map (·.2)).getD 0 < n then some (i, n) else best) best,
      2 ≤ r.2 ∧ r.2 = zeros (ps.drop r.1) := by
    intro is
    induction is with
    | nil => exact fun best hbest => hbest
    | cons i is ih =>
      intro best hbest
      refine ih _ fun r hr => ?_
      dsimp only at hr
      split at hr
      · cases hr
        exact ⟨(‹_ ∧ _›).1, rfl⟩
      · exact hbest r hr
  obtain ⟨htwo, hlength⟩ := hfold (List.range ps.length) none (by simp) (start, length) h
  refine ⟨htwo, ?_⟩
  dsimp only at hlength
  rw [hlength]
  exact take_zeros _

theorem le_of_longestRun {ps : List Nat} {start length : Nat}
    (h : longestRun ps = some (start, length)) : start + length ≤ ps.length := by
  obtain ⟨htwo, hrun⟩ := run_of_longestRun h
  have hlen := congrArg List.length hrun
  rw [List.length_take, List.length_replicate, List.length_drop] at hlen
  omega

/-! ## Reading undoes writing -/

/-- The run of zeros fills what is missing. -/
theorem fill_run {ps : List Nat} (hps : ps.length = 8) {start length : Nat}
    (h : longestRun ps = some (start, length)) :
    fill (ps.take start ++ ps.drop (start + length)) (some (ps.take start).length) = some ps := by
  have hle := le_of_longestRun h
  have hcount : 8 - (ps.take start ++ ps.drop (start + length)).length = length := by
    rw [List.length_append, List.length_take, List.length_drop]
    omega
  rw [fill, List.take_left, List.drop_left, hcount, ← (run_of_longestRun h).2, List.append_assoc,
    ← List.drop_drop, List.take_append_drop, List.take_append_drop]

theorem parse?_cons {d : Char} (hd : d ≠ ':') (r : List Char) :
    parse? (d :: r) = pieces ((d :: r).length + 1) (d :: r) [] none := by
  unfold parse?
  split
  · rename_i h
    exact absurd (List.cons.inj h).1 hd
  · rename_i h
    exact absurd (List.cons.inj h).1 hd
  · rename_i h
    cases h
  · rfl

theorem length_joined_le (ps : List Nat) : ps.length ≤ (joined ps).length := by
  cases ps with
  | nil => exact Nat.zero_le _
  | cons p ps =>
    induction ps generalizing p with
    | nil =>
      obtain ⟨d, r, hr, -⟩ := exists_joined_eq_cons p []
      rw [hr]
      simp
    | cons q ps ih =>
      have htail := ih q
      rw [joined_cons_cons]
      simp only [List.length_append, List.length_cons] at htail ⊢
      omega

/-- **Reading undoes writing.** -/
theorem parse?_chars {ps : List Nat} (h : Formed ps) : parse? (chars ps) = some ps := by
  have hlength := h.length
  unfold chars
  cases hrun : longestRun ps with
  | none =>
    have hfuel := length_joined_le ps
    obtain ⟨p, qs, rfl⟩ := List.exists_cons_of_length_eq_add_one hlength
    obtain ⟨d, r, hr, hd⟩ := exists_joined_eq_cons p qs
    dsimp only
    rw [hr, parse?_cons hd, ← hr, pieces_joined h.lt (by simp [position, hlength]) (by omega),
      List.nil_append, fill, if_pos hlength]
  | some run =>
    obtain ⟨start, length⟩ := run
    have htwo := (run_of_longestRun hrun).1
    have hle := le_of_longestRun hrun
    have hfill := fill_run hlength hrun
    have hlast : (ps.drop (start + length)).length = 8 - (start + length) := by
      rw [List.length_drop, hlength]
    have hpost : ∀ p ∈ ps.drop (start + length), p < 0x10000 := fun p hp =>
      h.lt p (List.mem_of_mem_drop hp)
    have hfuel := length_joined_le (ps.drop (start + length))
    dsimp only
    cases hpre : ps.take start with
    | nil =>
      rw [hpre] at hfill
      have hplace : position [] (some 0) + (ps.drop (start + length)).length ≤ 8 := by
        simp only [position, List.length_nil, Option.isSome_some, if_true]
        omega
      exact (pieces_joined hpost hplace (by omega)).trans hfill
    | cons p qs =>
      obtain ⟨d, r, hr, hd⟩ := exists_joined_eq_cons p qs
      have hfirst : (p :: qs).length = start := by
        rw [← hpre, List.length_take]
        omega
      have hpre' : ∀ x ∈ p :: qs, x < 0x10000 := fun x hx =>
        h.lt x (List.mem_of_mem_take (hpre ▸ hx))
      have hfuel' := length_joined_le (p :: qs)
      have hplace : position (p :: qs) (some (p :: qs).length) +
          (ps.drop (start + length)).length ≤ 8 := by
        simp only [position, Option.isSome_some, if_true]
        omega
      rw [hpre] at hfill
      -- the fuel that is left after the first pieces
      obtain ⟨fuel, hcount⟩ := Nat.exists_eq_add_of_le
        (show (p :: qs).length + (ps.drop (start + length)).length + 1 ≤
          (joined (p :: qs) ++ ':' :: ':' :: joined (ps.drop (start + length))).length by
            simp only [List.length_append, List.length_cons] at hfuel' hfuel ⊢
            omega)
      have hshort : ([] : List Nat).length + (p :: qs).length < 8 := by
        rw [List.length_nil]
        omega
      have hread := pieces_gap hpre' (fuel + (ps.drop (start + length)).length + 1) hshort
        (joined (ps.drop (start + length)))
      rw [List.nil_append] at hread
      rw [hr, List.cons_append, parse?_cons hd, ← List.cons_append, ← hr, hcount]
      rw [show (p :: qs).length + (ps.drop (start + length)).length + 1 + fuel + 1 =
        fuel + (ps.drop (start + length)).length + 1 + (p :: qs).length + 1 by omega, hread,
        pieces_joined hpost hplace (by omega)]
      exact hfill

/-! ## What is read -/

theorem hexValue?_lt {c : Char} {v : Nat} (h : Text.hexValue? c = some v) : v < 16 := by
  unfold Text.hexValue? at h
  dsimp only at h
  split at h
  · cases h
    omega
  · split at h
    · cases h
      omega
    · split at h
      · cases h
        omega
      · cases h

theorem hexRun_lt (n : Nat) (cs : List Char) (acc : Nat) :
    (hexRun n cs acc).1 < (acc + 1) * 16 ^ n := by
  induction n generalizing cs acc with
  | zero => simp [hexRun]
  | succ n ih =>
    have hself : acc < (acc + 1) * 16 ^ (n + 1) := by
      have hle : (acc + 1) * 1 ≤ (acc + 1) * 16 ^ (n + 1) :=
        Nat.mul_le_mul_left _ (Nat.pow_pos (by decide))
      omega
    cases cs with
    | nil => exact hself
    | cons c r =>
      rw [hexRun]
      cases hv : Text.hexValue? c with
      | none => exact hself
      | some v =>
        have hlt := hexValue?_lt hv
        calc (hexRun n r (16 * acc + v)).1 < (16 * acc + v + 1) * 16 ^ n := ih r _
          _ ≤ (16 * (acc + 1)) * 16 ^ n := Nat.mul_le_mul_right _ (by omega)
          _ = (acc + 1) * 16 ^ (n + 1) := by rw [Nat.pow_succ]; ring

theorem octet?_le {cs : List Char} {n : Nat} (h : octet? cs = some n) : n ≤ 255 := by
  unfold octet? at h
  dsimp only at h
  split at h
  · cases h
  · split at h
    · cases h
    · split at h
      · cases h
        assumption
      · cases h

theorem dotted?_spec {cs : List Char} {two : List Nat} (h : dotted? cs = some two) :
    two.length = 2 ∧ ∀ p ∈ two, p < 0x10000 := by
  unfold dotted? at h
  split at h
  · simp only [Option.bind_eq_bind, Option.bind_eq_some_iff, Option.some.injEq] at h
    obtain ⟨a, ha, b, hb, c, hc, d, hd, rfl⟩ := h
    have := octet?_le ha
    have := octet?_le hb
    have := octet?_le hc
    have := octet?_le hd
    refine ⟨rfl, ?_⟩
    simp only [List.mem_cons, List.not_mem_nil, or_false, forall_eq_or_imp, forall_eq]
    omega
  · cases h

theorem formed_of_fill {done : List Nat} {gap : Option Nat} {ps : List Nat}
    (hdone : ∀ p ∈ done, p < 0x10000) (hlen : done.length ≤ 8) (h : fill done gap = some ps) :
    Formed ps := by
  cases gap with
  | none =>
    rw [fill] at h
    split at h
    · cases h
      exact ⟨‹_›, hdone⟩
    · cases h
  | some gap =>
    cases h
    constructor
    · simp only [List.length_append, List.length_take, List.length_replicate, List.length_drop]
      omega
    · intro p hp
      simp only [List.mem_append, List.mem_replicate] at hp
      rcases hp with (hp | ⟨-, rfl⟩) | hp
      · exact hdone p (List.mem_of_mem_take hp)
      · decide
      · exact hdone p (List.mem_of_mem_drop hp)

theorem formed_of_pieces {fuel : Nat} {cs : List Char} {done : List Nat} {gap : Option Nat}
    {ps : List Nat} (hdone : ∀ p ∈ done, p < 0x10000) (hplace : position done gap ≤ 8)
    (h : pieces fuel cs done gap = some ps) : Formed ps := by
  have hlen : ∀ {done gap}, position done gap ≤ 8 → done.length ≤ 8 := fun hp =>
    (Nat.le_add_right _ _).trans hp
  have hconcat : ∀ {done : List Nat} {more : List Nat}, (∀ p ∈ done, p < 0x10000) →
      (∀ p ∈ more, p < 0x10000) → ∀ p ∈ done ++ more, p < 0x10000 := fun hd hm p hp =>
    (List.mem_append.mp hp).elim (hd p) (hm p)
  induction fuel generalizing cs done gap with
  | zero => cases h
  | succ fuel ih =>
    cases cs with
    | nil => exact formed_of_fill hdone (hlen hplace) h
    | cons c r =>
      rw [pieces] at h
      split at h
      · cases h
      · rename_i hroom
        have hvalue : ∀ p ∈ [(hexRun 4 (c :: r) 0).1], p < 0x10000 := by
          intro p hp
          rw [List.mem_singleton.mp hp]
          exact hexRun_lt 4 (c :: r) 0
        have hmore : position (done ++ [(hexRun 4 (c :: r) 0).1]) gap ≤ 8 := by
          rw [position_append, List.length_singleton]
          omega
        split at h
        · split at h
          · cases h
          · rename_i hgap
            obtain rfl : gap = none := Option.not_isSome_iff_eq_none.mp hgap
            refine ih hdone ?_ h
            simp only [position, Option.isSome_none, Option.isSome_some] at hroom ⊢
            simp at hroom ⊢
            omega
        · dsimp only at h
          split at h
          · split at h
            · cases h
            · exact formed_of_fill (hconcat hdone hvalue) (hlen hmore) h
          · split at h
            · cases h
            · rename_i hdot
              obtain ⟨two, htwo, hfill⟩ := Option.bind_eq_some_iff.mp h
              obtain ⟨hcount, hlt⟩ := dotted?_spec htwo
              refine formed_of_fill (hconcat hdone hlt) (@hlen _ gap ?_) hfill
              rw [position_append, hcount]
              omega
          · split at h
            · cases h
            · exact ih (hconcat hdone hvalue) hmore h
          · cases h

/-- **What is read are eight pieces.** -/
theorem formed_of_parse? {cs : List Char} {ps : List Nat} (h : parse? cs = some ps) :
    Formed ps := by
  unfold parse? at h
  split at h
  · exact formed_of_pieces (by simp) (by decide) h
  · cases h
  · cases h
  · exact formed_of_pieces (by simp) (by decide) h

/-! ## The written form -/

theorem mem_joined {ps : List Nat} {c : Char} (h : c ∈ joined ps) :
    c = ':' ∨ ∃ n < 16, c = n.digitChar := by
  induction ps with
  | nil => cases h
  | cons p ps ih =>
    cases ps with
    | nil =>
      rw [joined_singleton] at h
      exact .inr (Text.exists_digitChar_of_mem (by decide) h)
    | cons q ps =>
      rw [joined_cons_cons, List.mem_append, List.mem_cons] at h
      rcases h with h | rfl | h
      · exact .inr (Text.exists_digitChar_of_mem (by decide) h)
      · exact .inl rfl
      · exact ih h

/-- Only digits and colons are written. -/
theorem mem_chars {ps : List Nat} {c : Char} (h : c ∈ chars ps) :
    c = ':' ∨ ∃ n < 16, c = n.digitChar := by
  unfold chars at h
  split at h
  · exact mem_joined h
  · simp only [List.mem_append, List.mem_cons] at h
    rcases h with h | rfl | rfl | h
    · exact mem_joined h
    · exact .inl rfl
    · exact .inl rfl
    · exact mem_joined h

end Url.Address

end DbLifecycle
