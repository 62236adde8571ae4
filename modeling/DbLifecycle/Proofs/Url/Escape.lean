import DbLifecycle.Url.Basic

/-!
# What escaping leaves

Escaping a text again changes nothing, as no set asks for the characters of an escape.

* `Percent.Clean`: characters that a set does not ask for.
* `Percent.Sober`: a set that does not ask for the characters of an escape; those of all parts of a
  URL are.
* **`Percent.clean_encode`**, `Percent.encode_of_clean`: what was escaped is not escaped again.
* `Percent.mem_encode`: where the characters of an escaped text come from.
-/

namespace DbLifecycle

namespace Percent

variable {set : Char → Bool} {cs : List Char} {c : Char}

/-- Characters that a set does not ask to escape. -/
def Clean (set : Char → Bool) (cs : List Char) : Prop := ∀ c ∈ cs, c.toNat < 0x80 ∧ set c = false

theorem Clean.notMem (h : Clean set cs) (hc : set c = true) : c ∉ cs := fun hmem => by
  rw [(h c hmem).2] at hc
  cases hc

/-- A set that does not ask for the characters of an escape. -/
structure Sober (set : Char → Bool) : Prop where
  percent : set '%' = false
  digit : ∀ n < 16, set (Text.hexDigit n) = false

theorem encode_of_clean (h : Clean set cs) : encode set cs = cs := by
  induction cs with
  | nil => rfl
  | cons c r ih =>
    have hc := h c (by simp)
    have hplain : ¬ (0x80 ≤ c.toNat ∨ set c = true) := by
      rw [hc.2]
      simp only [Bool.false_eq_true, or_false]
      omega
    rw [encode, List.flatMap_cons, encodeChar, if_neg hplain]
    exact congrArg (c :: ·) (ih fun d hd => h d (by simp [hd]))

theorem mem_encodeByte {b : UInt8} (h : c ∈ encodeByte b) :
    c = '%' ∨ ∃ n < 16, c = Text.hexDigit n := by
  have hb : b.toNat < 256 := UInt8.toNat_lt_size b
  simp only [encodeByte, List.mem_cons, List.not_mem_nil, or_false] at h
  rcases h with rfl | rfl | rfl
  · exact .inl rfl
  · exact .inr ⟨_, by omega, rfl⟩
  · exact .inr ⟨_, by omega, rfl⟩

/-- A character of an escaped text is its own and not asked for, or belongs to an escape. -/
theorem mem_encode (h : c ∈ encode set cs) :
    (c ∈ cs ∧ c.toNat < 0x80 ∧ set c = false) ∨ c = '%' ∨ ∃ n < 16, c = Text.hexDigit n := by
  obtain ⟨d, hd, hc⟩ := List.mem_flatMap.mp h
  unfold encodeChar at hc
  split at hc
  · obtain ⟨b, -, hb⟩ := List.mem_flatMap.mp hc
    exact .inr (mem_encodeByte hb)
  · rename_i hplain
    obtain rfl := List.mem_singleton.mp hc
    refine .inl ⟨hd, by omega, ?_⟩
    simpa using fun hset => hplain (.inr hset)

theorem hexDigit_lt {n : Nat} (h : n < 16) : (Text.hexDigit n).toNat < 0x80 := by
  revert n
  decide

/-- **What was escaped is not escaped again.** -/
theorem clean_encode (h : Sober set) (cs : List Char) : Clean set (encode set cs) := by
  intro c hc
  rcases mem_encode hc with ⟨-, hc⟩ | rfl | ⟨n, hn, rfl⟩
  · exact hc
  · exact ⟨by decide, h.percent⟩
  · exact ⟨hexDigit_lt hn, h.digit n hn⟩

/-- A character that stands in no escape is not brought in by escaping. -/
theorem notMem_encode (hpercent : c ≠ '%') (hdigit : ∀ n < 16, c ≠ Text.hexDigit n)
    (h : c ∉ cs) : c ∉ encode set cs := fun hc => by
  rcases mem_encode hc with ⟨hmem, -⟩ | rfl | ⟨n, hn, rfl⟩
  · exact h hmem
  · exact hpercent rfl
  · exact hdigit n hn rfl

end Percent

namespace Url

open Percent

theorem sober_isControl : Sober isControl := ⟨by decide, by decide⟩

theorem sober_inFragment : Sober inFragment := ⟨by decide, by decide⟩

theorem sober_inQuery : Sober inQuery := ⟨by decide, by decide⟩

theorem sober_inPath : Sober inPath := ⟨by decide, by decide⟩

theorem sober_inUserinfo : Sober inUserinfo := ⟨by decide, by decide⟩

/-- A visible character of ASCII. -/
def IsVisible (c : Char) : Prop := 0x20 < c.toNat ∧ c.toNat < 0x7f

/-- Where controls and blanks are escaped, all characters are visible. -/
theorem isVisible_of_clean {set : Char → Bool} {cs : List Char} (h : Clean set cs)
    (hcontrol : ∀ c, isControl c = true → set c = true) (hblank : set ' ' = true) :
    ∀ c ∈ cs, IsVisible c := by
  intro c hc
  obtain ⟨hlt, hset⟩ := h c hc
  have hno : isControl c = false := by
    cases hcc : isControl c with
    | false => rfl
    | true => exact absurd (hcontrol c hcc) (by rw [hset]; decide)
  have hne : c.toNat ≠ 0x20 := fun heq => by
    have hc : c = ' ' := Char.toNat_inj.mp heq
    rw [hc, hblank] at hset
    cases hset
  simp only [isControl, Bool.or_eq_false_iff, decide_eq_false_iff_not, beq_eq_false_iff_ne] at hno
  exact ⟨by omega, by omega⟩

end Url

end DbLifecycle
