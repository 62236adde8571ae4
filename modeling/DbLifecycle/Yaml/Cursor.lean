/-!
# Places in a text

A text is read from front to back, with an eye on the line and on the column within it.

* `Yaml.isBlank`, `Yaml.isBreak`, `Yaml.isFlowMark`: classes of characters.
* `Cursor`: a place in a text.
* `Cursor.blank`, `Cursor.next`, `Cursor.newLine`: steps over one character or line break.
* `Cursor.endLine?`: passes over blanks and a comment.
-/

namespace DbLifecycle.Yaml

/-! ## Characters -/

/-- Blanks within a line. -/
def isBlank (c : Char) : Bool := c == ' ' || c == '\t'

/-- Line breaks. -/
def isBreak (c : Char) : Bool := c == '\n' || c == '\r'

/-- Whether the characters begin with a blank. -/
def atBlank (cs : List Char) : Bool := (cs.head?.map isBlank).getD false

/-- Whether the characters begin with a line break. -/
def atBreak (cs : List Char) : Bool := (cs.head?.map isBreak).getD false

/-- Whether a line ends before the characters. -/
def atLineEnd (cs : List Char) : Bool := cs.isEmpty || atBreak cs

/-- Whether a word ends before the characters. -/
def atWordEnd (cs : List Char) : Bool := atLineEnd cs || atBlank cs

/-- The characters that stand for themselves alone between brackets and braces. -/
def isFlowMark (c : Char) : Bool :=
  c == ',' || c == '[' || c == ']' || c.toNat == 0x7b || c.toNat == 0x7d

/-- Whether the characters begin with one that stands for itself alone in brackets. -/
def atFlowMark (cs : List Char) : Bool := (cs.head?.map isFlowMark).getD false

/-- Letters, digits, dashes and underscores. -/
def isNameChar (c : Char) : Bool := c.isAlphanum || c == '_' || c == '-'

/-- Whether the characters begin with three of a kind that stand alone. -/
def atMark (mark : Char) : List Char → Bool
  | a :: b :: c :: r => a == mark && b == mark && c == mark && atWordEnd r
  | _ => false

/-! ## Places -/

/-- A place in a text. -/
structure Cursor where
  /-- The characters from there on. -/
  rest : List Char
  /-- The number of characters before it. -/
  index : Nat := 0
  line : Nat := 0
  col : Nat := 0
  /-- Whether nothing but blanks stands before it in its line. -/
  isFresh : Bool := true
  deriving Repr

namespace Cursor

/-- The character after it. -/
def head? (c : Cursor) : Option Char := c.rest.head?

/-- After some blanks. -/
def blank (c : Cursor) (n : Nat := 1) : Cursor :=
  { c with rest := c.rest.drop n, index := c.index + n, col := c.col + n }

/-- After some characters of a line. -/
def next (c : Cursor) (n : Nat := 1) : Cursor := { c.blank n with isFresh := n == 0 && c.isFresh }

/-- After a line break; two characters can make one. -/
def newLine (c : Cursor) : Cursor :=
  let n := match c.rest with
    | '\r' :: '\n' :: _ => 2
    | _ => 1
  { rest := c.rest.drop n, index := c.index + n, line := c.line + 1, col := 0, isFresh := true }

/-- Whether a line that begins or ends a document starts there. -/
def atDocumentMark (c : Cursor) : Bool := c.col == 0 && (atMark '-' c.rest || atMark '.' c.rest)

/-- At the end of the line. -/
def skipLine (c : Cursor) : Cursor := c.next (c.rest.takeWhile fun ch => !isBreak ch).length

/-- After blanks and a comment, with the blanks. A comment must follow a blank. -/
def endLine? (c : Cursor) : Option (Cursor × List Char) :=
  let blanks := c.rest.takeWhile isBlank
  let c := c.blank blanks.length
  if c.head? == some '#' then
    if blanks.isEmpty then none else some (c.skipLine, blanks)
  else some (c, blanks)

/-- After blanks and a comment, at the end of a line. -/
def lineEnd? (c : Cursor) : Option Cursor :=
  c.endLine?.bind fun p => if atLineEnd p.1.rest then some p.1 else none

end Cursor

/-! ## Gaps -/

/-- What stands between two words of a text: blanks, the last one first, or line breaks. -/
structure Gap where
  blanks : List Char := []
  breaks : Nat := 0
  /-- Whether the first line break was written as an escape. -/
  isJoined : Bool := false
  deriving Repr

/-- What a gap stands for: the blanks within a line, a blank for one line break, and otherwise a
line break for each but the first. An escaped line break stands for nothing. -/
def Gap.text (g : Gap) : List Char :=
  if g.isJoined then List.replicate g.breaks '\n'
  else if g.breaks = 0 then g.blanks.reverse
  else if g.breaks = 1 then [' ']
  else List.replicate (g.breaks - 1) '\n'

end DbLifecycle.Yaml
