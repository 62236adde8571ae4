import DbLifecycle.Text.Hexadecimal
import DbLifecycle.Yaml.Cursor

/-!
# YAML anchors, tags and directives

* `Yaml.anchorName?`: the name of an anchor, or of a reference to one.
* `Tag`: a tag as it is written, with a handle and a suffix.
* `Yaml.tag?`: a tag.
* `Directive`: a line before a document that says something about it.
* `Yaml.directive?`: a directive.
-/

namespace DbLifecycle.Yaml

/-! ## Anchors -/

/-- Whether a character may stand in the name of an anchor. -/
def isAnchorChar (c : Char) : Bool :=
  !isBlank c && !isBreak c && !isFlowMark c && c.toNat != 0xfeff

/-- The name of an anchor, after its sign. -/
def anchorName? (c : Cursor) : Option (String × Cursor) :=
  let name := c.rest.takeWhile isAnchorChar
  if name.isEmpty then none else some (String.ofList name, c.next name.length)

/-! ## Tags -/

/-- A tag as it is written: its handle stands for the first part of its name. -/
structure Tag where
  handle : String
  suffix : String
  deriving DecidableEq, Repr

/-- Whether a character may stand in a name within angle brackets. -/
def isUriChar (c : Char) : Bool :=
  c.isAlphanum || c == '-' || "#;/?:@&=+$,_.!~*'()[]%".toList.contains c

/-- Whether a character may stand in a tag. -/
def isTagChar (c : Char) : Bool := isUriChar c && !isFlowMark c && c != '!'

/-- The number of bytes that belong together, by the first of them. -/
def byteCount? (b : Nat) : Option Nat :=
  if b < 0x80 then some 1
  else if 0xc0 ≤ b ∧ b < 0xe0 then some 2
  else if 0xe0 ≤ b ∧ b < 0xf0 then some 3
  else if 0xf0 ≤ b ∧ b < 0xf8 then some 4
  else none

/-- Reads some bytes that are written after percent signs, of which all but the first go on with a
character. -/
def percentBytes? : Nat → Nat → Cursor → Option (Nat × Cursor)
  | 0, code, c => some (code, c)
  | n + 1, code, c =>
    match c.rest with
    | '%' :: a :: b :: _ => do
      let byte := 16 * (← Text.hexValue? a) + (← Text.hexValue? b)
      if byte / 64 = 2 then percentBytes? n (256 * code + byte) (c.next 3) else none
    | _ => none

/-- A character whose bytes are written after percent signs. Its code is made of all bits of the
bytes. -/
def percentChar? (c : Cursor) : Option (Char × Cursor) :=
  match c.rest with
  | '%' :: a :: b :: _ => do
    let byte := 16 * (← Text.hexValue? a) + (← Text.hexValue? b)
    let (code, c) ← percentBytes? ((← byteCount? byte) - 1) byte (c.next 3)
    if code < 0xd800 ∨ (0xdfff < code ∧ code < 0x110000) then some (Char.ofNat code, c) else none
  | _ => none

/-- Reads characters of a class; `seen` holds what was read, the last one first. -/
def tagChars? (isPart : Char → Bool) : Nat → List Char → Cursor → Option (List Char × Cursor)
  | 0, seen, c => some (seen.reverse, c)
  | fuel + 1, seen, c =>
    match c.rest with
    | [] => some (seen.reverse, c)
    | ch :: _ =>
      if !isPart ch then some (seen.reverse, c)
      else if ch == '%' then
        (percentChar? c).bind fun p => tagChars? isPart fuel (p.1 :: seen) p.2
      else tagChars? isPart fuel (ch :: seen) c.next

/-- A handle: an exclamation mark, then perhaps a name and, to end it, another one. -/
def handle? (c : Cursor) : Option (List Char × Cursor) :=
  match c.rest with
  | '!' :: r =>
    let name := r.takeWhile isNameChar
    let c := c.next (name.length + 1)
    if c.head? == some '!' then some ('!' :: name ++ ['!'], c.next) else some ('!' :: name, c)
  | _ => none

/-- A tag in angle brackets, after its exclamation mark. -/
def verbatim? (c : Cursor) : Option (Tag × Cursor) := do
  let (name, c) ← tagChars? isUriChar (c.rest.length + 1) [] c.next
  if c.head? == some '>' then some (⟨"", String.ofList name⟩, c.next) else none

/-- A tag with a handle. One exclamation mark alone has the suffix `!`. -/
def shorthand? (c : Cursor) : Option (Tag × Cursor) := do
  let (handle, c) ← handle? c
  let (name, c) ← tagChars? isTagChar (c.rest.length + 1) [] c
  if 2 ≤ handle.length && handle.getLast? == some '!' then
    if name.isEmpty then none else some (⟨String.ofList handle, String.ofList name⟩, c)
  else
    let suffix := handle.tail ++ name
    some (if suffix.isEmpty then ⟨"", "!"⟩ else ⟨"!", String.ofList suffix⟩, c)

/-- A tag. A blank or the end of the line follows it, or in brackets what stands for itself. -/
def tag? (inFlow : Bool) (c : Cursor) : Option (Tag × Cursor) := do
  let (tag, c) ← if c.rest.tail.head? == some '<' then verbatim? c.next else shorthand? c
  if atWordEnd c.rest || (inFlow && atFlowMark c.rest) then some (tag, c) else none

/-! ## Directives -/

/-- A line before a document: the version of the format, or what a handle of tags stands for. Other
directives count as ones of the empty handle. -/
inductive Directive where
  | version
  | handle (name stem : String)
  deriving DecidableEq, Repr

/-- Some digits, at most nine. -/
def versionNumber? (c : Cursor) : Option Cursor :=
  let digits := c.rest.takeWhile Char.isDigit
  if digits.isEmpty || 9 < digits.length then none else some (c.next digits.length)

/-- Passes over blanks. -/
def skipBlanks (c : Cursor) : Cursor := c.blank (c.rest.takeWhile isBlank).length

/-- The version of the format: two numbers with a point between them. -/
def version? (c : Cursor) : Option Cursor := do
  let c ← versionNumber? (skipBlanks c)
  if c.head? == some '.' then versionNumber? c.next else none

/-- A handle of tags and what it stands for. -/
def handleDirective? (c : Cursor) : Option (Directive × Cursor) := do
  let (handle, c) ← handle? (skipBlanks c)
  if handle != ['!'] && (handle.length < 2 || handle.getLast? != some '!') then none
  else
    let c := skipBlanks c
    let (first, c) ← match c.head? with
      | some '!' => some ('!', c.next)
      | some '%' => percentChar? c
      | some ch => if isTagChar ch then some (ch, c.next) else none
      | none => none
    let (more, c) ← tagChars? isUriChar (c.rest.length + 1) [] c
    if atWordEnd c.rest then
      some (.handle (String.ofList handle) (String.ofList (first :: more)), c)
    else none

/-- A directive, after its percent sign, with the rest of its line. -/
def directive? (c : Cursor) : Option (Directive × Cursor) := do
  let name := c.rest.takeWhile isNameChar
  let c := c.next name.length
  if name.isEmpty || !atWordEnd c.rest then none
  else
    let (d, c) ← match String.ofList name with
      | "YAML" => (version? c).map fun c => (Directive.version, c)
      | "TAG" => handleDirective? c
      | _ => some (.handle "" "", c.skipLine)
    let c ← c.lineEnd?
    some (d, if atBreak c.rest then c.newLine else c)

end DbLifecycle.Yaml
