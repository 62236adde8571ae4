import DbLifecycle.Yaml.Cursor

/-!
# Indented YAML texts

A text after a bar or an angle bracket takes the lines that are indented deep enough, without their
indentation.

* `Chomping`: which line breaks at the end of the text count.
* `Yaml.indented?`: an indented text.
-/

namespace DbLifecycle.Yaml

/-- Which line breaks at the end count: one, all, or none. -/
inductive Chomping where
  | clip
  | keep
  | strip
  deriving DecidableEq, Repr

/-- What a sign behind the mark asks for. -/
def Chomping.ofSign? : Option Char → Option Chomping
  | some '+' => some .keep
  | some '-' => some .strip
  | _ => none

/-- A digit behind the mark: how much deeper than the block the text is. It must not be zero. -/
def depth? (c : Cursor) : Option (Nat × Cursor) :=
  match c.head? with
  | some ch =>
    if !ch.isDigit then some (0, c)
    else if ch == '0' then none
    else some (ch.toNat - '0'.toNat, c.next)
  | none => some (0, c)

/-- The signs behind the mark, in either order. -/
def signs? (c : Cursor) : Option (Chomping × Nat × Cursor) :=
  match Chomping.ofSign? c.head? with
  | some chomping => (depth? c.next).map fun p => (chomping, p)
  | none =>
    (depth? c).map fun (n, c) =>
      match n, Chomping.ofSign? c.head? with
      | _ + 1, some chomping => (chomping, n, c.next)
      | _, _ => (.clip, n, c)

/-- Passes over empty lines and the indentation of the line after them; comes with the number of
line breaks. -/
def skipIndent (indent : Nat) : Nat → Nat → Cursor → Nat × Cursor
  | 0, n, c => (n, c)
  | fuel + 1, n, c =>
    let c := c.blank ((c.rest.take (indent - c.col)).takeWhile (· == ' ')).length
    if atBreak c.rest then skipIndent indent fuel (n + 1) c.newLine else (n, c)

/-- Passes over empty lines and the indentation of the first other line; comes with the number of
line breaks and the deepest indentation that was seen. -/
def skipFirst : Nat → Nat → Nat → Cursor → Nat × Nat × Cursor
  | 0, deepest, n, c => (deepest, n, c)
  | fuel + 1, deepest, n, c =>
    let c := c.blank (c.rest.takeWhile (· == ' ')).length
    let deepest := max deepest c.col
    if atBreak c.rest then skipFirst fuel deepest (n + 1) c.newLine else (deepest, n, c)

/-- What has been read of an indented text. -/
structure Body where
  /-- The text, the last character first. -/
  seen : List Char := []
  /-- Whether a line break ended the last line. -/
  hasBreak : Bool := false
  /-- The empty lines after it. -/
  empty : Nat := 0
  /-- Whether the last line began with a blank. -/
  wasBlank : Bool := false

/-- What stands between the last line and one that begins with a blank or not: in a folded text a
blank, or a line break for each empty line, if neither line begins with a blank. -/
def Body.between (b : Body) (isFolded startsBlank : Bool) : List Char :=
  if isFolded && b.hasBreak && !b.wasBlank && !startsBlank then
    if b.empty = 0 then [' '] else List.replicate b.empty '\n'
  else List.replicate ((if b.hasBreak then 1 else 0) + b.empty) '\n'

/-- Reads the lines that are deep enough. -/
def bodyLines (isFolded : Bool) (indent : Nat) : Nat → Body → Cursor → Body × Cursor
  | 0, b, c => (b, c)
  | fuel + 1, b, c =>
    if c.col != indent || c.rest.isEmpty || (indent == 0 && atMark '.' c.rest) then (b, c)
    else
      let startsBlank := atBlank c.rest
      let line := c.rest.takeWhile fun ch => !isBreak ch
      let seen := line.reverse ++ (b.between isFolded startsBlank).reverse ++ b.seen
      let c := c.blank line.length
      if c.rest.isEmpty then ({ seen, wasBlank := startsBlank }, c)
      else
        let (empty, c) := skipIndent indent (c.rest.length + 1) 0 c.newLine
        bodyLines isFolded indent fuel { seen, hasBreak := true, empty, wasBlank := startsBlank } c

/-- The line breaks at the end of a text, which is followed by the end of everything if `atEnd`. -/
def Chomping.ending (chomping : Chomping) (b : Body) (atEnd : Bool) : List Char :=
  match chomping with
  | strip => []
  | clip => List.replicate ((if b.hasBreak then 1 else 0) + (if atEnd then 1 else 0)) '\n'
  | keep => List.replicate ((if b.hasBreak then 1 else 0) + (if atEnd then 1 else 0) + b.empty) '\n'

/-- What a text without lines stands for, at the end of everything. -/
def Chomping.empty (chomping : Chomping) (hasBreak : Bool) (empty : Nat) : List Char :=
  match chomping with
  | strip => []
  | clip => if hasBreak then ['\n'] else []
  | keep => if empty = 0 then (if hasBreak then ['\n'] else []) else List.replicate empty '\n'

/-- An indented text in a block of some indentation, after its mark. -/
def indented? (isFolded : Bool) (indent : Int) (c : Cursor) : Option (String × Cursor) := do
  let line := c.line
  let (chomping, depth, c) ← signs? c
  let c ← c.lineEnd?
  let hasBreak := atBreak c.rest
  let c := if hasBreak then c.newLine else c
  if c.head? == some '\t' then none
  else
    let own := if depth = 0 then 0 else depth + indent.toNat
    let (deepest, empty, c) :=
      if depth = 0 then skipFirst (c.rest.length + 1) 0 0 c
      else (own, skipIndent own (c.rest.length + 1) 0 c)
    let own := if depth = 0 then max deepest (indent + 1).toNat else own
    if c.rest.isEmpty then
      some (String.ofList (if c.line = line then [] else chomping.empty hasBreak empty), c)
    else if c.col < own && indent < c.col then none
    else
      let (b, c) := bodyLines isFolded own (c.rest.length + 1) { empty } c
      let atEnd := c.rest.isEmpty && (max indent 1).toNat ≤ c.col
      some (String.ofList (b.seen.reverse ++ chomping.ending b atEnd), c)

end DbLifecycle.Yaml
