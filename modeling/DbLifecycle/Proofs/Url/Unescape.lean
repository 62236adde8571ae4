import DbLifecycle.Proofs.Text.Utf8
import DbLifecycle.Proofs.Url.Escape

/-!
# What reading escapes gives back

Escaping does not escape the percent sign. So an escaped text is read as the text itself would be:
what looks like an escape in it becomes a character, and all else comes back.

* `Percent.StartsEscape`, `Percent.HasEscape`: text that begins with an escape, or holds one.
* `Percent.escape_induction`: a text, taken apart as it is read.
* `Percent.Spares`: a set that leaves escapes as they are.
* `Percent.decodeBytes_encode_of_spares`: an escaped text is read as the text itself.
* `Percent.length_decodeBytes_le`, `Percent.length_decodeBytes_lt`: reading escapes never adds
  bytes, and every escape costs some.
* **`Percent.decode_encode_eq_ok_iff`**: an escaped text is read as it was exactly if it held no
  escape.
-/

namespace DbLifecycle

namespace Percent

open Text (hexValue?)

/-! ## Escapes in a text -/

/-- A hexadecimal digit of either case. -/
def IsHex (c : Char) : Prop := (hexValue? c).isSome = true

/-- Text that begins with an escape. -/
def StartsEscape (cs : List Char) : Prop := ∃ a b r, cs = '%' :: a :: b :: r ∧ IsHex a ∧ IsHex b

/-- Text that holds an escape. -/
def HasEscape (cs : List Char) : Prop := ∃ front back, cs = front ++ back ∧ StartsEscape back

theorem hasEscape_cons_iff {c : Char} {r : List Char} :
    HasEscape (c :: r) ↔ StartsEscape (c :: r) ∨ HasEscape r := by
  constructor
  · rintro ⟨front, back, h, hback⟩
    cases front with
    | nil => exact .inl (by rwa [h])
    | cons d front =>
      obtain ⟨rfl, rfl⟩ := List.cons.inj h
      exact .inr ⟨front, back, rfl, hback⟩
  · rintro (h | ⟨front, back, rfl, hback⟩)
    · exact ⟨[], _, rfl, h⟩
    · exact ⟨c :: front, back, rfl, hback⟩

theorem not_hasEscape_nil : ¬ HasEscape [] := by
  rintro ⟨front, back, h, a, b, r, rfl, -⟩
  simp at h

theorem not_hasEscape_of_notMem {cs : List Char} (h : '%' ∉ cs) : ¬ HasEscape cs := by
  rintro ⟨front, back, rfl, a, b, r, rfl, -⟩
  simp at h

theorem HasEscape.append {cs : List Char} (h : HasEscape cs) (before after : List Char) :
    HasEscape (before ++ cs ++ after) := by
  obtain ⟨front, back, rfl, a, b, r, rfl, ha, hb⟩ := h
  exact ⟨before ++ front, '%' :: a :: b :: (r ++ after), by simp, a, b, r ++ after, rfl, ha, hb⟩

/-- A text, taken apart as it is read: escape by escape, and all else character by character. -/
theorem escape_induction {P : List Char → Prop} (nil : P [])
    (escape : ∀ {a b : Char} {r : List Char}, IsHex a → IsHex b → P r → P ('%' :: a :: b :: r))
    (char : ∀ {c : Char} {r : List Char}, ¬ StartsEscape (c :: r) → P r → P (c :: r))
    (cs : List Char) : P cs := by
  induction h : cs.length using Nat.strongRecOn generalizing cs with
  | ind n ih =>
    subst h
    cases cs with
    | nil => exact nil
    | cons c r =>
      by_cases hc : StartsEscape (c :: r)
      · obtain ⟨a, b, t, heq, ha, hb⟩ := hc
        rw [heq] at ih ⊢
        exact escape ha hb (ih _ (by simp only [List.length_cons]; omega) t rfl)
      · exact char hc (ih _ (by simp) r rfl)

/-! ## Reading -/

/-- An escape gives one byte, whatever follows it. -/
theorem decodeBytes_escape {a b : Char} (ha : IsHex a) (hb : IsHex b) :
    ∃ byte, ∀ r, decodeBytes ('%' :: a :: b :: r) = byte :: decodeBytes r := by
  obtain ⟨x, hx⟩ := Option.isSome_iff_exists.mp ha
  obtain ⟨y, hy⟩ := Option.isSome_iff_exists.mp hb
  exact ⟨UInt8.ofNat (16 * x + y), fun r => by simp only [decodeBytes, hx, hy]⟩

theorem decodeBytes_char {c : Char} {r : List Char} (h : ¬ StartsEscape (c :: r)) :
    decodeBytes (c :: r) = String.utf8EncodeChar c ++ decodeBytes r := by
  by_cases hc : c = '%'
  · subst hc
    match r with
    | [] => rfl
    | [a] => simp [decodeBytes]
    | a :: b :: t =>
      have hboth : ∀ x y, hexValue? a = some x → hexValue? b = some y → False := fun x y hx hy =>
        h ⟨a, b, t, rfl, Option.isSome_of_eq_some hx, Option.isSome_of_eq_some hy⟩
      rw [decodeBytes]
      split
      · exact (hboth _ _ ‹_› ‹_›).elim
      · rfl
  · exact decodeBytes_cons hc r

theorem decodeBytes_of_not_hasEscape {cs : List Char} (h : ¬ HasEscape cs) :
    decodeBytes cs = Text.Utf8.encode cs := by
  induction cs with
  | nil => rfl
  | cons c r ih =>
    rw [hasEscape_cons_iff, not_or] at h
    rw [decodeBytes_char h.1, ih h.2, Text.Utf8.encode_cons]

/-! ## Lengths -/

theorem length_utf8EncodeChar_pos (c : Char) : 0 < (String.utf8EncodeChar c).length :=
  List.length_pos_iff.mpr String.utf8EncodeChar_ne_nil

/-- **Reading escapes never adds bytes.** -/
theorem length_decodeBytes_le (cs : List Char) :
    (decodeBytes cs).length ≤ (Text.Utf8.encode cs).length := by
  induction cs using escape_induction with
  | nil => exact Nat.le_refl _
  | escape ha hb ih =>
    rename_i a b r
    obtain ⟨byte, hbyte⟩ := decodeBytes_escape ha hb
    have hpercent := length_utf8EncodeChar_pos '%'
    simp only [hbyte, Text.Utf8.encode_cons, List.length_cons, List.length_append]
    omega
  | char hc ih =>
    rw [decodeBytes_char hc, Text.Utf8.encode_cons, List.length_append, List.length_append]
    omega

/-- **Every escape costs bytes.** -/
theorem length_decodeBytes_lt {cs : List Char} (h : HasEscape cs) :
    (decodeBytes cs).length < (Text.Utf8.encode cs).length := by
  induction cs using escape_induction with
  | nil => exact absurd h not_hasEscape_nil
  | escape ha hb ih =>
    rename_i a b r
    obtain ⟨byte, hbyte⟩ := decodeBytes_escape ha hb
    have hpercent := length_utf8EncodeChar_pos '%'
    have hrest := length_decodeBytes_le r
    have ha := length_utf8EncodeChar_pos a
    simp only [hbyte, Text.Utf8.encode_cons, List.length_cons, List.length_append]
    omega
  | char hc ih =>
    have hrest := ih ((hasEscape_cons_iff.mp h).resolve_left hc)
    rw [decodeBytes_char hc, Text.Utf8.encode_cons, List.length_append, List.length_append]
    omega

/-! ## Escaping leaves escapes -/

/-- A set that leaves escapes as they are, whatever the case of their digits. -/
structure Spares (set : Char → Bool) : Prop where
  percent : set '%' = false
  hex : ∀ c, IsHex c → set c = false

theorem IsHex.toNat_lt {c : Char} (h : IsHex c) : c.toNat < 0x80 := by
  unfold IsHex hexValue? at h
  grind

theorem not_isHex_percent : ¬ IsHex '%' := by
  unfold IsHex
  decide

section

variable {set : Char → Bool}

theorem encode_cons_of_plain {c : Char} (hlt : c.toNat < 0x80) (hset : set c = false)
    (r : List Char) : encode set (c :: r) = c :: encode set r := by
  rw [encode, List.flatMap_cons, encodeChar, if_neg (by simp [hset]; omega)]
  rfl

/-- A digit at the front of an escaped text was there before. -/
theorem encode_eq_cons_of_isHex {cs r : List Char} {a : Char} (ha : IsHex a)
    (h : encode set cs = a :: r) : ∃ t, cs = a :: t ∧ encode set t = r := by
  cases cs with
  | nil => cases h
  | cons c t =>
    rw [encode, List.flatMap_cons, encodeChar] at h
    split at h
    · obtain ⟨b, more, hc⟩ := List.exists_cons_of_ne_nil (String.utf8EncodeChar_ne_nil (c := c))
      rw [hc] at h
      obtain ⟨rfl, -⟩ := List.cons.inj h
      exact absurd ha not_isHex_percent
    · obtain ⟨rfl, rfl⟩ := List.cons.inj h
      exact ⟨t, rfl, rfl⟩

theorem startsEscape_of_encode {cs : List Char} (h : StartsEscape ('%' :: encode set cs)) :
    StartsEscape ('%' :: cs) := by
  obtain ⟨a, b, r, heq, ha, hb⟩ := h
  obtain ⟨-, heq⟩ := List.cons.inj heq
  obtain ⟨t, rfl, ht⟩ := encode_eq_cons_of_isHex ha heq
  obtain ⟨u, rfl, -⟩ := encode_eq_cons_of_isHex hb ht
  exact ⟨a, b, u, rfl, ha, hb⟩

/-- **An escaped text is read as the text itself.** -/
theorem decodeBytes_encode_of_spares (h : Spares set) (cs : List Char) :
    decodeBytes (encode set cs) = decodeBytes cs := by
  induction cs using escape_induction with
  | nil => rfl
  | escape ha hb ih =>
    obtain ⟨byte, hbyte⟩ := decodeBytes_escape ha hb
    rw [encode_cons_of_plain (by decide) h.percent, encode_cons_of_plain ha.toNat_lt (h.hex _ ha),
      encode_cons_of_plain hb.toNat_lt (h.hex _ hb), hbyte, hbyte, ih]
  | char hc ih =>
    rename_i c r
    rw [decodeBytes_char hc]
    by_cases hplain : 0x80 ≤ c.toNat ∨ set c = true
    · rw [encode, List.flatMap_cons, encodeChar, if_pos hplain, decodeBytes_encodeBytes]
      exact congrArg _ ih
    · rw [not_or, Nat.not_le, Bool.not_eq_true] at hplain
      rw [encode_cons_of_plain hplain.1 hplain.2, decodeBytes_char, ih]
      rintro ⟨a, b, t, heq, ha, hb⟩
      obtain ⟨rfl, -⟩ := List.cons.inj heq
      exact hc (startsEscape_of_encode ⟨a, b, t, heq, ha, hb⟩)

/-- **An escaped text is read as it was exactly if it held no escape.** -/
theorem decode_encode_eq_ok_iff (h : Spares set) (s : String) :
    decode (encode set s.toList) = .ok s ↔ ¬ HasEscape s.toList := by
  rw [decode, decodeBytes_encode_of_spares h, Text.Utf8.decode_eq_ok_iff]
  constructor
  · intro heq hescape
    exact absurd (congrArg List.length heq) (Nat.ne_of_lt (length_decodeBytes_lt hescape))
  · exact decodeBytes_of_not_hasEscape

end

end Percent

namespace Url

open Percent

theorem spares_of_forall {set : Char → Bool} (hpercent : set '%' = false)
    (h : ∀ n < 0x80, (Text.hexValue? (Char.ofNat n)).isSome = true → set (Char.ofNat n) = false) :
    Spares set where
  percent := hpercent
  hex c hc := by
    have hn := h c.toNat hc.toNat_lt
    rw [Char.ofNat_toNat] at hn
    exact hn hc

theorem spares_inPath : Spares inPath := spares_of_forall (by decide) (by decide)

theorem spares_inUserinfo : Spares inUserinfo := spares_of_forall (by decide) (by decide)

end Url

end DbLifecycle
