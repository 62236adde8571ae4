/-!
# UTF-8

Bytes that may or may not encode a text.

* `Utf8.Piece`, `Utf8.pieces`: the characters in some bytes, and the bytes that are part of none.
* `Utf8.Fault`: where bytes stop being text, with its wording.
* `Utf8.decode`: the text that bytes encode, or the first fault.
* `Utf8.lossy`: the text in which one character stands for each fault.
-/

namespace DbLifecycle.Text.Utf8

/-! ## Pieces -/

/-- A stretch of bytes. -/
inductive Piece where
  | char (c : Char)
  /-- Bytes that are part of no character. -/
  | stray (size : Nat)
  /-- The end of the bytes within a character. -/
  | cut
  deriving DecidableEq, Repr

/-- How many bytes follow a first byte, and the bounds of the one after it. The bounds leave out
surrogates, what lies beyond the last code point, and long forms of what has a shorter one. -/
def followers? (lead : UInt8) : Option (Nat × UInt8 × UInt8) :=
  if lead < 0x80 then some (0, 0x80, 0xbf)
  else if lead < 0xc2 then none
  else if lead < 0xe0 then some (1, 0x80, 0xbf)
  else if lead = 0xe0 then some (2, 0xa0, 0xbf)
  else if lead = 0xed then some (2, 0x80, 0x9f)
  else if lead < 0xf0 then some (2, 0x80, 0xbf)
  else if lead = 0xf0 then some (3, 0x90, 0xbf)
  else if lead < 0xf4 then some (3, 0x80, 0xbf)
  else if lead = 0xf4 then some (3, 0x80, 0x8f)
  else none

/-- The bytes at the front, `n` at most, that continue a character. -/
def continuation : Nat → UInt8 → UInt8 → List UInt8 → List UInt8
  | n + 1, low, high, b :: r =>
    if low ≤ b ∧ b ≤ high then b :: continuation n 0x80 0xbf r else []
  | _, _, _, _ => []

/-- The code point of a first byte and those after it, each of which carries six bits. -/
def codePoint (lead : UInt8) (more : List UInt8) : Nat :=
  let first := if more.isEmpty then lead.toNat else lead.toNat % Nat.pow 2 (6 - more.length)
  more.foldl (fun n b => 64 * n + b.toNat % 64) first

/-- The piece that begins with a byte, and how many of the bytes after it belong to it. -/
def front (lead : UInt8) (r : List UInt8) : Piece × Nat :=
  match followers? lead with
  | none => (.stray 1, 0)
  | some (n, low, high) =>
    let more := continuation n low high r
    if more.length = n then (.char (Char.ofNat (codePoint lead more)), more.length)
    else if r.length = more.length then (.cut, more.length)
    else (.stray (more.length + 1), more.length)

/-- The pieces of some bytes, in order, where the first few belong to a piece before them. -/
def piecesAfter : Nat → List UInt8 → List Piece
  | _, [] => []
  | n + 1, _ :: r => piecesAfter n r
  | 0, b :: r => (front b r).1 :: piecesAfter (front b r).2 r

/-- The pieces of some bytes, in order. -/
def pieces (bs : List UInt8) : List Piece := piecesAfter 0 bs

/-! ## Text -/

/-- Where bytes stop being text: at `size` bytes that are part of no character, or, without a size,
at the beginning of a character that does not end. -/
structure Fault where
  index : Nat
  size : Option Nat
  deriving DecidableEq, Repr

/-- The wording of a fault. -/
def Fault.message : Fault → String
  | ⟨index, some size⟩ =>
    "invalid utf-8 sequence of " ++ toString size ++ " bytes from index " ++ toString index
  | ⟨index, none⟩ => "incomplete utf-8 byte sequence from index " ++ toString index

/-- The characters of pieces whose first byte has an index. -/
def characters (index : Nat) : List Piece → Except Fault (List Char)
  | [] => .ok []
  | .char c :: r => (characters (index + c.utf8Size) r).map (c :: ·)
  | .stray size :: _ => .error ⟨index, some size⟩
  | .cut :: _ => .error ⟨index, none⟩

/-- The text that some bytes encode. -/
def decode (bs : List UInt8) : Except Fault String := (characters 0 (pieces bs)).map String.ofList

/-- The character of a piece. -/
def Piece.shown : Piece → Char
  | .char c => c
  | _ => '\ufffd'

/-- The text of some bytes, in which a replacement character stands for each fault. -/
def lossy (bs : List UInt8) : String := String.ofList ((pieces bs).map Piece.shown)

end DbLifecycle.Text.Utf8
