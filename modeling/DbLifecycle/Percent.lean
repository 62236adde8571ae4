import DbLifecycle.Text.Hexadecimal
import DbLifecycle.Text.Utf8

/-!
# Percent encoding

A byte written as a percent sign and two hexadecimal digits.

* `Percent.encode`: writes the characters of a set, and all beyond ASCII, as their UTF-8 bytes.
* `Percent.decodeBytes`: reads every well-formed escape as its byte.
* `Percent.decode`: the text of the bytes read, if they are UTF-8.
* **`Percent.decodeBytes_encode`**: decoding undoes encoding when the text holds no percent sign or
  the set does.
-/

namespace DbLifecycle

namespace Percent

open Text (hexDigit hexValue? hexValue?_hexDigit)

/-- The escape of a byte. -/
def encodeByte (b : UInt8) : List Char := ['%', hexDigit (b.toNat / 16), hexDigit (b.toNat % 16)]

/-- A character as itself, or escaped if it is in the set or beyond ASCII. -/
def encodeChar (set : Char → Bool) (c : Char) : List Char :=
  if 0x80 ≤ c.toNat ∨ set c = true then (String.utf8EncodeChar c).flatMap encodeByte else [c]

/-- Escapes the characters of a set and all beyond ASCII. -/
def encode (set : Char → Bool) (cs : List Char) : List Char := cs.flatMap (encodeChar set)

/-- The bytes of a text whose well-formed escapes are read; other percent signs stay. -/
def decodeBytes : List Char → List UInt8
  | '%' :: a :: b :: r =>
    match hexValue? a, hexValue? b with
    | some x, some y => UInt8.ofNat (16 * x + y) :: decodeBytes r
    | _, _ => 0x25 :: decodeBytes (a :: b :: r)
  | c :: r => String.utf8EncodeChar c ++ decodeBytes r
  | [] => []

/-- The text whose UTF-8 bytes decoding gives. -/
def decode (cs : List Char) : Except Text.Utf8.Fault String := Text.Utf8.decode (decodeBytes cs)

/-! ## Decoding undoes encoding -/

theorem decodeBytes_encodeByte (b : UInt8) (r : List Char) :
    decodeBytes (encodeByte b ++ r) = b :: decodeBytes r := by
  have hb : b.toNat < 256 := UInt8.toNat_lt_size b
  simp only [encodeByte, List.cons_append, List.nil_append, decodeBytes]
  rw [hexValue?_hexDigit (by omega), hexValue?_hexDigit (by omega)]
  simp only [Nat.div_add_mod, UInt8.ofNat_toNat]

theorem decodeBytes_encodeBytes (bs : List UInt8) (r : List Char) :
    decodeBytes (bs.flatMap encodeByte ++ r) = bs ++ decodeBytes r := by
  induction bs with
  | nil => rfl
  | cons b bs ih => simp [decodeBytes_encodeByte, ih]

theorem decodeBytes_cons {c : Char} (h : c ≠ '%') (r : List Char) :
    decodeBytes (c :: r) = String.utf8EncodeChar c ++ decodeBytes r := by
  cases r with
  | nil => simp [decodeBytes]
  | cons a r =>
    cases r with
    | nil => simp [decodeBytes]
    | cons b r =>
      rw [decodeBytes]
      rintro _ _ _ rfl
      exact absurd rfl h

/-- A percent sign that is written as itself could be read as the start of an escape. -/
theorem decodeBytes_encode {set : Char → Bool} {cs : List Char}
    (h : ∀ c ∈ cs, c = '%' → set c = true) :
    decodeBytes (encode set cs) = cs.flatMap String.utf8EncodeChar := by
  induction cs with
  | nil => rfl
  | cons c r ih =>
    have ih := ih fun d hd => h d (by simp [hd])
    have hc := h c (by simp)
    rw [encode] at ih ⊢
    rw [List.flatMap_cons, List.flatMap_cons, encodeChar]
    split
    · rw [decodeBytes_encodeBytes, ih]
    · next hn =>
      rw [List.singleton_append, decodeBytes_cons (fun he => hn (.inr (hc he))), ih]

end Percent

end DbLifecycle
