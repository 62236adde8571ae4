import DbLifecycle.Text.Hexadecimal
import DbLifecycle.Yaml.Cursor

/-!
# YAML texts in quotes

A text in quotes may go over several lines, each of which is indented as deep as the block it
belongs to.

* `Yaml.escape?`: what stands after a backslash between double quotes.
* `Yaml.quoted?`: a text in quotes of either kind.
-/

namespace DbLifecycle.Yaml

/-! ## Escapes -/

/-- The character of a number of hexadecimal digits, and the number of those. -/
def hexEscape? (digits : Nat) (cs : List Char) : Option (Char × Nat) :=
  if cs.length < digits then none
  else
    let code := (cs.take digits).foldlM (fun n c => (Text.hexValue? c).map fun d => 16 * n + d) 0
    code.bind fun n =>
      if n < 0xd800 ∨ (0xdfff < n ∧ n < 0x110000) then some (Char.ofNat n, digits + 1) else none

/-- The character an escape stands for, and the length of the escape after its backslash. -/
def escape? : List Char → Option (Char × Nat)
  | '0' :: _ => some ('\x00', 1)
  | 'a' :: _ => some ('\x07', 1)
  | 'b' :: _ => some ('\x08', 1)
  | 't' :: _ => some ('\t', 1)
  | '\t' :: _ => some ('\t', 1)
  | 'n' :: _ => some ('\n', 1)
  | 'v' :: _ => some ('\x0b', 1)
  | 'f' :: _ => some ('\x0c', 1)
  | 'r' :: _ => some ('\r', 1)
  | 'e' :: _ => some ('\x1b', 1)
  | ' ' :: _ => some (' ', 1)
  | '"' :: _ => some ('"', 1)
  | '/' :: _ => some ('/', 1)
  | '\\' :: _ => some ('\\', 1)
  | 'N' :: _ => some (Char.ofNat 0x85, 1)
  | '_' :: _ => some (Char.ofNat 0xa0, 1)
  | 'L' :: _ => some (Char.ofNat 0x2028, 1)
  | 'P' :: _ => some (Char.ofNat 0x2029, 1)
  | 'x' :: r => hexEscape? 2 r
  | 'u' :: r => hexEscape? 4 r
  | 'U' :: r => hexEscape? 8 r
  | _ => none

/-! ## Words and gaps -/

/-- Reads up to a blank, a line break or the closing quote; `seen` holds what was read, the last
character first. An escaped line break ends the word too, and is passed over. -/
def quotedWord (isSingle : Bool) : Nat → List Char → Cursor → Option (List Char × Cursor × Bool)
  | 0, seen, c => some (seen, c, false)
  | fuel + 1, seen, c =>
    match c.rest with
    | [] => some (seen, c, false)
    | ch :: r =>
      if isBlank ch || isBreak ch then some (seen, c, false)
      else if isSingle then
        if ch != '\'' then quotedWord isSingle fuel (ch :: seen) c.next
        else if r.head? == some '\'' then quotedWord isSingle fuel ('\'' :: seen) (c.next 2)
        else some (seen, c, false)
      else if ch == '"' then some (seen, c, false)
      else if ch != '\\' then quotedWord isSingle fuel (ch :: seen) c.next
      else if atBreak r then some (seen, c.next.newLine, true)
      else (escape? r).bind fun e => quotedWord isSingle fuel (e.1 :: seen) (c.next (e.2 + 1))

/-- Reads blanks and line breaks between two words. Tabs do not indent a line. -/
def quotedGap (indent : Int) : Nat → Gap → Cursor → Option (Gap × Cursor)
  | 0, g, c => some (g, c)
  | fuel + 1, g, c =>
    match c.rest with
    | [] => some (g, c)
    | ch :: _ =>
      if isBreak ch then quotedGap indent fuel { g with breaks := g.breaks + 1 } c.newLine
      else if !isBlank ch then some (g, c)
      else if g.isJoined || g.breaks != 0 then
        if ch == '\t' && c.col < indent then none else quotedGap indent fuel g c.blank
      else quotedGap indent fuel { g with blanks := ch :: g.blanks } c.blank

/-- Reads words and gaps up to the closing quote. -/
def quotedWords (isSingle : Bool) (indent : Int) :
    Nat → List Char → Cursor → Option (List Char × Cursor)
  | 0, _, _ => none
  | fuel + 1, seen, c =>
    if c.atDocumentMark || c.rest.isEmpty || c.col < indent then none
    else do
      let (seen, c, isJoined) ← quotedWord isSingle (c.rest.length + 1) seen c
      if c.head? == some (if isSingle then '\'' else '"') then some (seen, c.next)
      else
        let (g, c) ← quotedGap indent (c.rest.length + 1) { isJoined } c
        quotedWords isSingle indent fuel (g.text.reverse ++ seen) c

/-- A text in quotes in a block of some indentation, after its opening quote. What follows in the
line must be able to follow a scalar. -/
def quoted? (isSingle : Bool) (indent : Int) (inFlow : Bool) (c : Cursor) :
    Option (String × Cursor) := do
  let (seen, e) ← quotedWords isSingle indent (c.rest.length + 1) [] c
  let (e, _) ← e.endLine?
  let fits := match e.rest with
    | [] => true
    | ch :: _ =>
      isBreak ch ||
        (if inFlow then ch == ':' || ch == ',' || ch == ']' || ch.toNat == 0x7d
         else ch == ':' && e.line == c.line)
  if fits then some (String.ofList seen.reverse, e) else none

end DbLifecycle.Yaml
