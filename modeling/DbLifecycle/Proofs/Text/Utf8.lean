import Mathlib
import DbLifecycle.Proofs.Walk
import DbLifecycle.Text.Utf8

/-!
# Bytes that are text

Bytes decode to a text exactly if they are its own encoding: nothing else is accepted, neither long
forms nor surrogates.

* `Utf8.encode`: the bytes of a text.
* `Utf8.front_encode`, `Utf8.encode_of_front`: a character is read at the front of some bytes
  exactly if its own bytes stand there.
* **`Utf8.decode_eq_ok_iff`**: the bytes that decode to a text.
-/

namespace DbLifecycle.Text.Utf8

/-- The bytes of a text. -/
def encode (cs : List Char) : List UInt8 := cs.flatMap String.utf8EncodeChar

@[simp]
theorem encode_nil : encode [] = [] := rfl

@[simp]
theorem encode_cons (c : Char) (r : List Char) :
    encode (c :: r) = String.utf8EncodeChar c ++ encode r :=
  List.flatMap_cons

/-! ## Pieces -/

theorem piecesAfter_eq (n : Nat) (bs : List UInt8) : piecesAfter n bs = pieces (bs.drop n) := by
  induction n generalizing bs with
  | zero => rfl
  | succ n ih =>
    cases bs with
    | nil => rfl
    | cons b r => exact ih r

theorem pieces_cons (b : UInt8) (r : List UInt8) :
    pieces (b :: r) = (front b r).1 :: pieces (r.drop (front b r).2) := by
  rw [pieces, piecesAfter, piecesAfter_eq]

/-- The text of pieces that are all characters. -/
theorem characters_eq_ok_iff {index : Nat} {ps : List Piece} {cs : List Char} :
    characters index ps = .ok cs ↔ ps = cs.map .char := by
  induction ps generalizing index cs with
  | nil => cases cs <;> simp [characters]
  | cons p r ih =>
    cases p with
    | char c =>
      rw [characters, map_eq_ok_iff]
      simp only [ih]
      constructor
      · rintro ⟨ds, rfl, rfl⟩
        rfl
      · intro h
        obtain ⟨d, ds, rfl, hd, rfl⟩ := List.map_eq_cons_iff.mp h.symm
        cases hd
        exact ⟨ds, rfl, rfl⟩
    | stray size => cases cs <;> simp [characters]
    | cut => cases cs <;> simp [characters]

/-! ## Characters -/

/-- A byte that continues a character. -/
def IsNext (b : UInt8) : Prop := 0x80 ≤ b.toNat ∧ b.toNat ≤ 0xbf

theorem ofNat_eq_iff {n : Nat} (h : n < 256) {b : UInt8} : UInt8.ofNat n = b ↔ b.toNat = n := by
  rw [← UInt8.toNat_inj, UInt8.toNat_ofNat_of_lt' h, eq_comm]

theorem toNat_valid (c : Char) : c.toNat < 0xd800 ∨ 0xdfff < c.toNat ∧ c.toNat < 0x110000 :=
  c.valid

theorem utf8EncodeChar_eq_one_iff {c : Char} {b : UInt8} :
    String.utf8EncodeChar c = [b] ↔ b.toNat < 0x80 ∧ c.toNat = b.toNat := by
  have hv : c.val.toNat = c.toNat := rfl
  unfold String.utf8EncodeChar
  simp only [hv]
  split
  · rw [List.singleton_inj, ofNat_eq_iff (by omega)]
    omega
  · refine iff_of_false ?_ (by omega)
    split
    · simp
    · split <;> simp

theorem utf8EncodeChar_eq_two_iff {c : Char} {b b₁ : UInt8} :
    String.utf8EncodeChar c = [b, b₁] ↔
      0xc2 ≤ b.toNat ∧ b.toNat < 0xe0 ∧ IsNext b₁ ∧
        c.toNat = 64 * (b.toNat % 32) + b₁.toNat % 64 := by
  have hv : c.val.toNat = c.toNat := rfl
  unfold String.utf8EncodeChar IsNext
  simp only [hv]
  split
  · simp
    omega
  · split
    · simp only [List.cons.injEq, and_true]
      rw [ofNat_eq_iff (by omega), ofNat_eq_iff (by omega)]
      omega
    · refine iff_of_false ?_ (by omega)
      split <;> simp

theorem utf8EncodeChar_eq_three_iff {c : Char} {b b₁ b₂ : UInt8} :
    String.utf8EncodeChar c = [b, b₁, b₂] ↔
      0xe0 ≤ b.toNat ∧ b.toNat < 0xf0 ∧ (b.toNat = 0xe0 → 0xa0 ≤ b₁.toNat) ∧
        (b.toNat = 0xed → b₁.toNat ≤ 0x9f) ∧ IsNext b₁ ∧ IsNext b₂ ∧
        c.toNat = 64 * (64 * (b.toNat % 16) + b₁.toNat % 64) + b₂.toNat % 64 := by
  have hv : c.val.toNat = c.toNat := rfl
  have hvalid := toNat_valid c
  unfold String.utf8EncodeChar IsNext
  simp only [hv]
  split
  · simp
    omega
  · split
    · simp
      omega
    · split
      · simp only [List.cons.injEq, and_true]
        rw [ofNat_eq_iff (by omega), ofNat_eq_iff (by omega), ofNat_eq_iff (by omega)]
        omega
      · simp
        omega

theorem utf8EncodeChar_eq_four_iff {c : Char} {b b₁ b₂ b₃ : UInt8} :
    String.utf8EncodeChar c = [b, b₁, b₂, b₃] ↔
      0xf0 ≤ b.toNat ∧ b.toNat ≤ 0xf4 ∧ (b.toNat = 0xf0 → 0x90 ≤ b₁.toNat) ∧
        (b.toNat = 0xf4 → b₁.toNat ≤ 0x8f) ∧ IsNext b₁ ∧ IsNext b₂ ∧ IsNext b₃ ∧
        c.toNat =
          64 * (64 * (64 * (b.toNat % 8) + b₁.toNat % 64) + b₂.toNat % 64) + b₃.toNat % 64 := by
  have hv : c.val.toNat = c.toNat := rfl
  have hvalid := toNat_valid c
  unfold String.utf8EncodeChar IsNext
  simp only [hv]
  split
  · simp
    omega
  · split
    · simp
      omega
    · split
      · simp
        omega
      · simp only [List.cons.injEq, and_true]
        rw [ofNat_eq_iff (by omega), ofNat_eq_iff (by omega), ofNat_eq_iff (by omega),
          ofNat_eq_iff (by omega)]
        omega

/-! ## First bytes -/

theorem followers?_eq_zero {b : UInt8} (h : b.toNat < 0x80) :
    followers? b = some (0, 0x80, 0xbf) := by
  unfold followers?
  rw [if_pos (UInt8.lt_iff_toNat_lt.mpr h)]

theorem followers?_eq_one {b : UInt8} (h : 0xc2 ≤ b.toNat) (h' : b.toNat < 0xe0) :
    followers? b = some (1, 0x80, 0xbf) := by
  simp [followers?, UInt8.lt_iff_toNat_lt, h', show ¬ b.toNat < 128 by omega, Nat.not_lt.mpr h]

theorem followers?_eq_two {b : UInt8} (h : 0xe0 ≤ b.toNat) (h' : b.toNat < 0xf0) :
    followers? b = some (2, if b.toNat = 0xe0 then 0xa0 else 0x80,
      if b.toNat = 0xed then 0x9f else 0xbf) := by
  simp only [followers?, UInt8.lt_iff_toNat_lt, ← UInt8.toNat_inj]
  simp [h', show ¬ b.toNat < 128 by omega, show ¬ b.toNat < 194 by omega, Nat.not_lt.mpr h]
  grind

theorem followers?_eq_three {b : UInt8} (h : 0xf0 ≤ b.toNat) (h' : b.toNat ≤ 0xf4) :
    followers? b = some (3, if b.toNat = 0xf0 then 0x90 else 0x80,
      if b.toNat = 0xf4 then 0x8f else 0xbf) := by
  simp only [followers?, UInt8.lt_iff_toNat_lt, ← UInt8.toNat_inj]
  simp
  grind

/-- The four kinds of first bytes. -/
theorem first_cases {b : UInt8} {found : Nat × UInt8 × UInt8} (h : followers? b = some found) :
    b.toNat < 0x80 ∨ (0xc2 ≤ b.toNat ∧ b.toNat < 0xe0) ∨ (0xe0 ≤ b.toNat ∧ b.toNat < 0xf0) ∨
      (0xf0 ≤ b.toNat ∧ b.toNat ≤ 0xf4) := by
  simp only [followers?, UInt8.lt_iff_toNat_lt, ← UInt8.toNat_inj] at h
  simp at h
  grind

/-! ## Bytes that follow -/

theorem continuation_cons {n : Nat} {low high b : UInt8} (hlow : low.toNat ≤ b.toNat)
    (hhigh : b.toNat ≤ high.toNat) (r : List UInt8) :
    continuation (n + 1) low high (b :: r) = b :: continuation n 0x80 0xbf r :=
  if_pos ⟨UInt8.le_iff_toNat_le.mpr hlow, UInt8.le_iff_toNat_le.mpr hhigh⟩

theorem continuation_zero (low high : UInt8) (r : List UInt8) : continuation 0 low high r = [] := by
  rw [continuation]
  simp

/-- Enough bytes follow only if the next one is within its bounds. -/
theorem next_of_continuation {n : Nat} {low high : UInt8} {r : List UInt8}
    (h : (continuation (n + 1) low high r).length = n + 1) :
    ∃ b t, r = b :: t ∧ low.toNat ≤ b.toNat ∧ b.toNat ≤ high.toNat ∧
      (continuation n 0x80 0xbf t).length = n := by
  cases r with
  | nil => cases h
  | cons b t =>
    rw [continuation] at h
    split at h
    · rename_i hb
      exact ⟨b, t, rfl, UInt8.le_iff_toNat_le.mp hb.1, UInt8.le_iff_toNat_le.mp hb.2,
        Nat.succ.inj h⟩
    · cases h

theorem continuation_next {n : Nat} {b : UInt8} (h : IsNext b) (r : List UInt8) :
    continuation (n + 1) 0x80 0xbf (b :: r) = b :: continuation n 0x80 0xbf r :=
  @continuation_cons n 0x80 0xbf b h.1 h.2 r

theorem least_of_ite {p : Prop} [Decidable p] {low b : UInt8} (hlow : 0x80 ≤ low.toNat)
    (h : (if p then low else 0x80).toNat ≤ b.toNat) :
    0x80 ≤ b.toNat ∧ (p → low.toNat ≤ b.toNat) := by
  split at h
  · exact ⟨hlow.trans h, fun _ => h⟩
  · rename_i hp
    exact ⟨h, fun hp' => absurd hp' hp⟩

theorem most_of_ite {p : Prop} [Decidable p] {high b : UInt8} (hhigh : high.toNat ≤ 0xbf)
    (h : b.toNat ≤ (if p then high else 0xbf).toNat) :
    b.toNat ≤ 0xbf ∧ (p → b.toNat ≤ high.toNat) := by
  split at h
  · exact ⟨h.trans hhigh, fun _ => h⟩
  · rename_i hp
    exact ⟨h, fun hp' => absurd hp' hp⟩

/-! ## Characters at the front -/

theorem front_of_continuation {b low high : UInt8} {more r : List UInt8} {c : Char}
    (hb : followers? b = some (more.length, low, high))
    (hr : continuation more.length low high r = more) (hc : c.toNat = codePoint b more) :
    front b r = (.char c, more.length) := by
  simp only [front, hb, hr, if_true, ← hc, Char.ofNat_toNat]

/-- **A character is read where its bytes stand.** -/
theorem front_encode {c : Char} {b : UInt8} {more : List UInt8}
    (h : String.utf8EncodeChar c = b :: more) (t : List UInt8) :
    front b (more ++ t) = (.char c, more.length) := by
  have hmore : more.length ≤ 3 := by
    have hlen := congrArg List.length h
    have hsize := c.utf8Size_le_four
    rw [String.length_utf8EncodeChar, List.length_cons] at hlen
    omega
  match more, hmore with
  | [], _ =>
    obtain ⟨hb, hc⟩ := utf8EncodeChar_eq_one_iff.mp h
    exact front_of_continuation (followers?_eq_zero hb) (by cases t <;> rfl) hc
  | [b₁], _ =>
    obtain ⟨hlow, hhigh, h₁, hc⟩ := utf8EncodeChar_eq_two_iff.mp h
    exact front_of_continuation (followers?_eq_one hlow hhigh) (continuation_next h₁ t) hc
  | [b₁, b₂], _ =>
    obtain ⟨hlow, hhigh, hleast, hmost, h₁, h₂, hc⟩ := utf8EncodeChar_eq_three_iff.mp h
    refine front_of_continuation (followers?_eq_two hlow hhigh) ?_ hc
    refine (continuation_cons ?_ ?_ _).trans (congrArg (b₁ :: ·) (continuation_next h₂ t))
    · split
      · exact hleast ‹_›
      · exact h₁.1
    · split
      · exact hmost ‹_›
      · exact h₁.2
  | [b₁, b₂, b₃], _ =>
    obtain ⟨hlow, hhigh, hleast, hmost, h₁, h₂, h₃, hc⟩ := utf8EncodeChar_eq_four_iff.mp h
    refine front_of_continuation (followers?_eq_three hlow hhigh) ?_ hc
    have htail : continuation 2 0x80 0xbf ([b₂, b₃] ++ t) = [b₂, b₃] :=
      (continuation_next h₂ _).trans (congrArg (b₂ :: ·) (continuation_next h₃ t))
    refine (continuation_cons ?_ ?_ _).trans (congrArg (b₁ :: ·) htail)
    · split
      · exact hleast ‹_›
      · exact h₁.1
    · split
      · exact hmost ‹_›
      · exact h₁.2

/-- Only a whole run of bytes is a character. -/
theorem continuation_of_front {b : UInt8} {r : List UInt8} {c : Char}
    (h : (front b r).1 = .char c) : ∃ n low high, followers? b = some (n, low, high) ∧
      (continuation n low high r).length = n ∧ (front b r).2 = n ∧
      c = Char.ofNat (codePoint b (continuation n low high r)) := by
  unfold front at h ⊢
  split at h
  · cases h
  · rename_i n low high hb
    dsimp only at h
    split at h
    · rename_i hr
      cases h
      exact ⟨n, low, high, hb, hr, by simp [hr], rfl⟩
    · split at h <;> cases h

theorem toNat_ofNat {n m : Nat} (hn : n = m) (h : m < 0xd800 ∨ 0xdfff < m ∧ m < 0x110000) :
    (Char.ofNat n).toNat = m := by
  rw [hn, Char.toNat_ofNat, if_pos h]

theorem encode_codePoint_one {b : UInt8} (h : b.toNat < 0x80) :
    String.utf8EncodeChar (Char.ofNat (codePoint b [])) = [b] :=
  utf8EncodeChar_eq_one_iff.mpr ⟨h, toNat_ofNat rfl (by omega)⟩

theorem encode_codePoint_two {b b₁ : UInt8} (h : 0xc2 ≤ b.toNat) (h' : b.toNat < 0xe0)
    (h₁ : IsNext b₁) : String.utf8EncodeChar (Char.ofNat (codePoint b [b₁])) = [b, b₁] :=
  utf8EncodeChar_eq_two_iff.mpr ⟨h, h', h₁, toNat_ofNat rfl (by omega)⟩

theorem encode_codePoint_three {b b₁ b₂ : UInt8} (h : 0xe0 ≤ b.toNat) (h' : b.toNat < 0xf0)
    (hleast : b.toNat = 0xe0 → 0xa0 ≤ b₁.toNat) (hmost : b.toNat = 0xed → b₁.toNat ≤ 0x9f)
    (h₁ : IsNext b₁) (h₂ : IsNext b₂) :
    String.utf8EncodeChar (Char.ofNat (codePoint b [b₁, b₂])) = [b, b₁, b₂] := by
  obtain ⟨hfrom, hto⟩ := h₁
  exact utf8EncodeChar_eq_three_iff.mpr
    ⟨h, h', hleast, hmost, ⟨hfrom, hto⟩, h₂, toNat_ofNat rfl (by omega)⟩

theorem encode_codePoint_four {b b₁ b₂ b₃ : UInt8} (h : 0xf0 ≤ b.toNat) (h' : b.toNat ≤ 0xf4)
    (hleast : b.toNat = 0xf0 → 0x90 ≤ b₁.toNat) (hmost : b.toNat = 0xf4 → b₁.toNat ≤ 0x8f)
    (h₁ : IsNext b₁) (h₂ : IsNext b₂) (h₃ : IsNext b₃) :
    String.utf8EncodeChar (Char.ofNat (codePoint b [b₁, b₂, b₃])) = [b, b₁, b₂, b₃] := by
  obtain ⟨hfrom, hto⟩ := h₁
  exact utf8EncodeChar_eq_four_iff.mpr
    ⟨h, h', hleast, hmost, ⟨hfrom, hto⟩, h₂, h₃, toNat_ofNat rfl (by omega)⟩

/-- **Nothing else is read as a character.** -/
theorem encode_of_front {b : UInt8} {r : List UInt8} {c : Char} (h : (front b r).1 = .char c) :
    b :: r = String.utf8EncodeChar c ++ r.drop (front b r).2 := by
  obtain ⟨n, low, high, hb, hr, hn, rfl⟩ := continuation_of_front h
  rw [hn]
  rcases first_cases hb with hone | ⟨hlow, hhigh⟩ | ⟨hlow, hhigh⟩ | ⟨hlow, hhigh⟩
  · rw [followers?_eq_zero hone] at hb
    cases hb
    rw [continuation_zero, encode_codePoint_one hone]
    rfl
  · rw [followers?_eq_one hlow hhigh] at hb
    cases hb
    obtain ⟨b₁, t, rfl, h₁, h₁', -⟩ := next_of_continuation hr
    have hnext : IsNext b₁ := ⟨h₁, h₁'⟩
    rw [continuation_next hnext, continuation_zero, encode_codePoint_two hlow hhigh hnext]
    rfl
  · rw [followers?_eq_two hlow hhigh] at hb
    cases hb
    obtain ⟨b₁, r₁, rfl, h₁, h₁', hr₁⟩ := next_of_continuation hr
    obtain ⟨b₂, t, rfl, h₂, h₂', -⟩ := next_of_continuation hr₁
    have hnext : IsNext b₂ := ⟨h₂, h₂'⟩
    obtain ⟨hfrom, hleast⟩ := least_of_ite (by decide) h₁
    obtain ⟨hto, hmost⟩ := most_of_ite (by decide) h₁'
    rw [continuation_cons h₁ h₁', continuation_next hnext, continuation_zero,
      encode_codePoint_three hlow hhigh hleast hmost ⟨hfrom, hto⟩ hnext]
    rfl
  · rw [followers?_eq_three hlow hhigh] at hb
    cases hb
    obtain ⟨b₁, r₁, rfl, h₁, h₁', hr₁⟩ := next_of_continuation hr
    obtain ⟨b₂, r₂, rfl, h₂, h₂', hr₂⟩ := next_of_continuation hr₁
    obtain ⟨b₃, t, rfl, h₃, h₃', -⟩ := next_of_continuation hr₂
    have hnext₂ : IsNext b₂ := ⟨h₂, h₂'⟩
    have hnext₃ : IsNext b₃ := ⟨h₃, h₃'⟩
    obtain ⟨hfrom, hleast⟩ := least_of_ite (by decide) h₁
    obtain ⟨hto, hmost⟩ := most_of_ite (by decide) h₁'
    rw [continuation_cons h₁ h₁', continuation_next hnext₂, continuation_next hnext₃,
      continuation_zero,
      encode_codePoint_four hlow hhigh hleast hmost ⟨hfrom, hto⟩ hnext₂ hnext₃]
    rfl

/-! ## Text -/

theorem pieces_encode (cs : List Char) : pieces (encode cs) = cs.map .char := by
  induction cs with
  | nil => rfl
  | cons c r ih =>
    obtain ⟨b, more, hc⟩ := List.exists_cons_of_ne_nil (String.utf8EncodeChar_ne_nil (c := c))
    rw [encode_cons, hc, List.cons_append, pieces_cons, front_encode hc, List.drop_left, ih]
    rfl

theorem eq_encode_of_pieces {bs : List UInt8} {cs : List Char} (h : pieces bs = cs.map .char) :
    bs = encode cs := by
  induction cs generalizing bs with
  | nil =>
    cases bs with
    | nil => rfl
    | cons b r => rw [pieces_cons] at h; cases h
  | cons c r ih =>
    cases bs with
    | nil => cases h
    | cons b t =>
      rw [pieces_cons] at h
      obtain ⟨hc, hr⟩ := List.cons.inj h
      rw [encode_cons, ← ih hr]
      exact encode_of_front hc

/-- **Bytes decode to a text exactly if they are its own.** -/
theorem decode_eq_ok_iff {bs : List UInt8} {s : String} :
    decode bs = .ok s ↔ bs = encode s.toList := by
  rw [decode, map_eq_ok_iff]
  constructor
  · rintro ⟨cs, hcs, rfl⟩
    rw [String.toList_ofList]
    exact eq_encode_of_pieces (characters_eq_ok_iff.mp hcs)
  · rintro rfl
    exact ⟨s.toList, characters_eq_ok_iff.mpr (pieces_encode _), String.ofList_toList⟩

theorem encode_injective {cs ds : List Char} (h : encode cs = encode ds) : cs = ds := by
  have hpieces := pieces_encode cs
  rw [h, pieces_encode] at hpieces
  exact (List.map_injective_iff.mpr (fun _ _ => Piece.char.inj) hpieces).symm

end DbLifecycle.Text.Utf8
