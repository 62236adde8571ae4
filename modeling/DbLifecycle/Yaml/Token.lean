import DbLifecycle.Yaml.Indented
import DbLifecycle.Yaml.Plain
import DbLifecycle.Yaml.Quoted
import DbLifecycle.Yaml.Tag

/-!
# YAML tokens

A text is cut into tokens. The indentation of lines becomes tokens too: one for the beginning of
each mapping or list of lines, and one for its end. Whether a scalar is a key shows only at the
colon behind it, so the tokens that announce a key are put in front of it afterwards.

* `Token`: the tokens.
* `Scanner`: how far the text has been cut.
* `Scanner.step?`: cuts off what comes next.
* `Token.scan?`: the tokens of a text.
-/

namespace DbLifecycle.Yaml

/-- A token. -/
inductive Token where
  | directive (d : Directive)
  | documentStart
  | documentEnd
  | blockMapping
  | blockList
  | blockEnd
  | blockItem
  | flowMapping
  | flowMappingEnd
  | flowList
  | flowListEnd
  | flowItem
  | key
  | value
  | anchor (name : String)
  | reference (name : String)
  | tag (t : Tag)
  | scalar (isPlain : Bool) (text : String)
  | streamEnd
  deriving DecidableEq, Repr

/-- A token that a colon can make a key. -/
structure KeyPlace where
  /-- The number of tokens before it. -/
  token : Nat
  index : Nat
  line : Nat
  col : Nat
  /-- Whether nothing but a key can stand there. -/
  isRequired : Bool
  deriving Repr

/-- An indentation within another one. -/
structure Indent where
  /-- The indentation around it. -/
  outer : Int
  /-- Whether it is one of a mapping or a list of lines; otherwise it is what a value on the next
  line must have at least. -/
  isBlock : Bool
  deriving Repr

/-- How far a text has been cut into tokens. -/
structure Scanner where
  place : Cursor
  tokens : List Token := []
  /-- The possible keys, one for the block and one for each open bracket, the innermost first. -/
  keys : List (Option KeyPlace) := [none]
  /-- Whether a key may begin at the place. -/
  allowsKey : Bool := true
  /-- The indentation of the innermost block, or of what may stand in it. -/
  indent : Int := -1
  /-- All indentations, the innermost first. -/
  indents : List Indent := []
  /-- Where a colon ends a key even if no blank follows. -/
  adjacentAt : Nat := 0
  /-- Whether a colon belongs to a mapping that is open already. -/
  inMapping : Bool := false
  /-- For each open list in brackets, whether a mapping without braces is open in it. -/
  pairs : List Bool := []
  deriving Repr

namespace Scanner

/-- Whether a bracket is open. -/
def inFlow (s : Scanner) : Bool := 1 < s.keys.length

/-- Adds a token. -/
def push (s : Scanner) (t : Token) : Scanner := { s with tokens := s.tokens ++ [t] }

/-- Puts a token in front of another one. -/
def insert (s : Scanner) (n : Nat) (t : Token) : Scanner :=
  { s with tokens := s.tokens.take n ++ t :: s.tokens.drop n }

/-- Moves on. -/
def moveTo (s : Scanner) (c : Cursor) : Scanner := { s with place := c }

/-! ## Indentation -/

/-- Leaves the indentations that belong to no mapping or list. -/
def leaveLoose (s : Scanner) : List Indent → Scanner
  | [] => { s with indents := [] }
  | i :: r =>
    if i.isBlock then { s with indents := i :: r }
    else leaveLoose { s with indent := i.outer } r

/-- Leaves all indentations deeper than a column, and so ends their mappings and lists. -/
def leaveDeeper (s : Scanner) (col : Int) : List Indent → Scanner
  | [] => { s with indents := [] }
  | i :: r =>
    if s.indent ≤ col then { s with indents := i :: r }
    else
      let s := { s with indent := i.outer }
      leaveDeeper (if i.isBlock then s.push .blockEnd else s) col r

/-- Ends the mappings and lists that are deeper than a column. -/
def unroll (s : Scanner) (col : Int) : Scanner :=
  if s.inFlow then s else s.leaveDeeper col s.indents

/-- Begins a mapping or list at a column, if it is deeper than the innermost one, with a token in
front of another one. -/
def roll (s : Scanner) (col : Nat) (place : Nat) (t : Token) : Scanner :=
  if s.inFlow then s
  else
    let s := match s.indents with
      | i :: r =>
        if s.indent ≤ col && !i.isBlock then { s with indent := i.outer, indents := r } else s
      | [] => s
    if s.indent < (col : Int) then
      { s with indent := (col : Int), indents := ⟨s.indent, true⟩ :: s.indents }.insert place t
    else s

/-- Asks that what follows on further lines be indented by one column more. -/
def rollLoose (s : Scanner) : Scanner :=
  match s.indents with
  | i :: _ =>
    if !s.inFlow && i.isBlock then
      { s with indent := s.indent + 1, indents := ⟨s.indent, false⟩ :: s.indents }
    else s
  | [] => s

/-! ## Keys -/

/-- Keeps in mind that a key may begin at the place. -/
def saveKey (s : Scanner) : Scanner :=
  if s.allowsKey then
    let c := s.place
    let isBlock := (s.indents.head?.map Indent.isBlock).getD false
    let key : KeyPlace :=
      { token := s.tokens.length, index := c.index, line := c.line, col := c.col
        isRequired := !s.inFlow && s.indent == c.col && isBlock }
    { s with keys := some key :: s.keys.tail }
  else s

/-- The innermost possible key. -/
def key? (s : Scanner) : Option KeyPlace := s.keys.head?.join

/-- Gives up the innermost possible key, unless it is required. -/
def dropKey? (s : Scanner) : Option Scanner :=
  match s.key? with
  | some k => if k.isRequired then none else some { s with keys := none :: s.keys.tail }
  | none => some s

/-- Gives up the possible keys that are too far behind; among lines a key stands in one line. -/
def dropStale? (s : Scanner) : Option Scanner :=
  if s.inFlow then some s
  else
    match s.key? with
    | some k =>
      if k.line < s.place.line || k.index + 1024 < s.place.index then
        if k.isRequired then none else some { s with keys := none :: s.keys.tail }
      else some s
    | none => some s

/-! ## Passing over space -/

/-- Passes over blanks, line breaks and comments. Tabs do not indent the lines of a block. -/
def skipSpace? : Nat → Scanner → Option Scanner
  | 0, s => some s
  | fuel + 1, s =>
    let c := s.place
    match c.rest with
    | [] => some s
    | ch :: _ =>
      if ch == '\t' && !s.indents.isEmpty && c.isFresh && c.col < s.indent then
        c.lineEnd?.bind fun c => skipSpace? fuel (s.moveTo c)
      else if isBlank ch then skipSpace? fuel (s.moveTo c.blank)
      else if isBreak ch then
        skipSpace? fuel { s.moveTo c.newLine with allowsKey := s.allowsKey || !s.inFlow }
      else if ch == '#' then skipSpace? fuel (s.moveTo c.skipLine)
      else some s

/-- Passes over all space at the place. -/
def skipSpace (s : Scanner) : Option Scanner := skipSpace? (s.place.rest.length + 1) s

/-- Passes over blanks and a comment in a line. -/
def endLine? (s : Scanner) : Option Scanner := s.place.endLine?.map fun p => s.moveTo p.1

/-- Passes over blanks without tabs, line breaks and comments, of which there must be some. -/
def skipAfterMark? : Nat → Bool → Scanner → Option Scanner
  | 0, _, s => some s
  | fuel + 1, isSeparate, s =>
    let c := s.place
    match c.rest with
    | ' ' :: _ => skipAfterMark? fuel true (s.moveTo c.blank)
    | '#' :: _ => skipAfterMark? fuel isSeparate (s.moveTo c.skipLine)
    | ch :: _ =>
      if isBreak ch then
        skipAfterMark? fuel true { s.moveTo c.newLine with allowsKey := s.allowsKey || !s.inFlow }
      else if isSeparate then some s
      else none
    | [] => if isSeparate then some s else none

/-! ## Documents -/

/-- Ends all mappings and lists before a line that stands alone. -/
def leaveAll? (s : Scanner) : Option Scanner :=
  ((s.unroll (-1)).dropKey?).map fun s => { s with allowsKey := false }

/-- A directive. -/
def directive? (s : Scanner) : Option Scanner := do
  let s ← s.leaveAll?
  let (d, c) ← Yaml.directive? s.place.next
  some ((s.moveTo c).push (.directive d))

/-- The line that begins a document. -/
def documentStart? (s : Scanner) : Option Scanner :=
  s.leaveAll?.map fun s => (s.moveTo (s.place.next 3)).push .documentStart

/-- The line that ends a document; nothing else stands in it. -/
def documentEnd? (s : Scanner) : Option Scanner := do
  let s ← s.leaveAll?
  let c ← (s.place.next 3).lineEnd?
  some ((s.moveTo c).push .documentEnd)

/-- The end of everything. -/
def streamEnd? (s : Scanner) : Option Scanner :=
  if s.keys.any fun k => (k.map KeyPlace.isRequired).getD false then none
  else
    let s := { s with keys := s.keys.map fun _ => none, allowsKey := false }
    some ((s.unroll (-1)).push .streamEnd)

/-! ## Brackets and braces -/

/-- How deep brackets may be nested. -/
def maxFlow : Nat := 255

/-- An opening bracket or brace. -/
def open? (s : Scanner) (isList : Bool) : Option Scanner := do
  let s := s.saveKey.rollLoose
  if maxFlow < s.keys.length then none
  else
    let s := { s with
      keys := none :: s.keys
      allowsKey := true
      inMapping := s.inMapping || !isList
      pairs := if isList then false :: s.pairs else s.pairs }
    let s ← (s.moveTo s.place.next).endLine?
    some (s.push (if isList then .flowList else .flowMapping))

/-- Ends a mapping without braces in a list. -/
def endPair (s : Scanner) : Scanner :=
  match s.pairs with
  | true :: r => { s with pairs := false :: r, inMapping := false }.push .flowMappingEnd
  | _ => s

/-- A closing bracket or brace. -/
def close? (s : Scanner) (isList : Bool) : Option Scanner := do
  let s ← s.dropKey?
  let s := { s with keys := if s.inFlow then s.keys.tail else s.keys, allowsKey := false }
  let s := if isList then { s.endPair with pairs := s.endPair.pairs.tail } else s
  let s ← (s.moveTo s.place.next).endLine?
  let s := if s.inFlow then { s with adjacentAt := s.place.index } else s
  some (s.push (if isList then .flowListEnd else .flowMappingEnd))

/-- A comma. -/
def comma? (s : Scanner) : Option Scanner := do
  let s ← s.dropKey?
  let s := { s with allowsKey := true }.endPair
  let s ← (s.moveTo s.place.next).endLine?
  some (s.push .flowItem)

/-! ## Items, keys and values -/

/-- The dash of an item. -/
def item? (s : Scanner) : Option Scanner := do
  if s.inFlow || !s.allowsKey then none
  else
    let col := s.place.col
    let s := (s.moveTo s.place.next).roll col s.tokens.length .blockList
    let (c, blanks) ← s.place.endLine?
    if blanks.contains '\t' && c.head? == some '-' && atWordEnd c.rest.tail then none
    else
      let s := s.moveTo c
      let s := if atBreak c.rest || atFlowMark c.rest then s.rollLoose else s
      let s ← s.dropKey?
      some ({ s with allowsKey := true }.push .blockItem)

/-- The question mark of a key. -/
def keyMark? (s : Scanner) : Option Scanner := do
  let s ← if s.inFlow then some { s with inMapping := true }
    else if s.allowsKey then some (s.roll s.place.col s.tokens.length .blockMapping)
    else none
  let s ← s.dropKey?
  let s := { s with allowsKey := !s.inFlow }
  let s ← skipAfterMark? (s.place.rest.length + 1) false (s.moveTo s.place.next)
  if s.place.head? == some '\t' then none else some (s.push .key)

/-- The colon of a value. A tab behind it is no blank before a dash or a word. -/
def colon? (s : Scanner) : Option Scanner := do
  let key := s.key?
  let start := s.place
  let opensPair := !s.pairs.isEmpty && !s.inMapping
  let s := if opensPair then { s with pairs := true :: s.pairs.tail } else s
  let s := s.moveTo s.place.next
  let s ← if s.place.head? == some '\t' then
      s.place.endLine?.bind fun (c, blanks) =>
        if !blanks.contains ' ' && (c.head?.map isNameChar).getD false then none
        else some (s.moveTo c)
    else some s
  match key with
  | some k =>
    if opensPair && k.line < start.line then none
    else
      let s := s.insert k.token .key
      let s := if opensPair then s.insert k.token .flowMapping else s
      let s := (s.roll k.col k.token .blockMapping).rollLoose
      some ({ s with keys := none :: s.keys.tail, allowsKey := false }.push .value)
  | none =>
    let s := if opensPair then s.push .flowMapping else s
    if s.inFlow then some ({ s with allowsKey := false }.push .value)
    else if !s.allowsKey then none
    else
      let s := (s.roll start.col s.tokens.length .blockMapping).rollLoose
      some ({ s with allowsKey := true }.push .value)

/-- The colon of a value in brackets; a list or mapping right behind it would need a blank, except
behind a key in quotes. -/
def flowColon? (s : Scanner) : Option Scanner :=
  let c := s.place.rest.tail.head?
  if s.place.index != s.adjacentAt && (c == some '[' || (c.map Char.toNat) == some 0x7b) then none
  else s.colon?

/-! ## Scalars -/

/-- An anchor, or a reference to one. -/
def anchor? (s : Scanner) (make : String → Token) : Option Scanner := do
  let s := s.saveKey
  let (name, c) ← anchorName? s.place.next
  some (({ s with allowsKey := false }.moveTo c).push (make name))

/-- A tag. -/
def tag? (s : Scanner) : Option Scanner := do
  let s := s.saveKey
  let (tag, c) ← Yaml.tag? s.inFlow s.place
  some (({ s with allowsKey := false }.moveTo c).push (.tag tag))

/-- An indented text. -/
def indented? (s : Scanner) (isFolded : Bool) : Option Scanner := do
  let s := s.saveKey
  let s := s.leaveLoose s.indents
  let (text, c) ← Yaml.indented? isFolded s.indent s.place.next
  some (({ s with allowsKey := true }.moveTo c).push (.scalar false text))

/-- A text in quotes. -/
def quoted? (s : Scanner) (isSingle : Bool) : Option Scanner := do
  let s := { s.saveKey with allowsKey := false }
  let (text, c) ← Yaml.quoted? isSingle s.indent s.inFlow s.place.next
  let s ← (s.moveTo c).skipSpace
  some ({ s with adjacentAt := s.place.index }.push (.scalar false text))

/-- A text without quotes. -/
def plain? (s : Scanner) : Option Scanner := do
  let s := s.saveKey
  let s := s.leaveLoose s.indents
  let (text, c) ← Yaml.plain? s.indent s.inFlow s.place
  some (({ s with allowsKey := c.isFresh }.moveTo c).push (.scalar true text))

/-! ## Steps -/

/-- Cuts off what begins with a character. -/
def dispatch? (s : Scanner) (ch : Char) (r : List Char) : Option Scanner :=
  if ch == '[' then s.open? true
  else if ch.toNat == 0x7b then s.open? false
  else if ch == ']' then s.close? true
  else if ch.toNat == 0x7d then s.close? false
  else if ch == ',' then s.comma?
  else if ch == '-' && atWordEnd r then s.item?
  else if ch == '?' && atWordEnd r then s.keyMark?
  else if ch == ':' && atWordEnd r then s.colon?
  else if ch == ':' && s.inFlow && (atFlowMark r || s.place.index == s.adjacentAt) then s.flowColon?
  else if ch == '*' then s.anchor? .reference
  else if ch == '&' then s.anchor? .anchor
  else if ch == '!' then s.tag?
  else if ch == '|' && !s.inFlow then s.indented? false
  else if ch == '>' && !s.inFlow then s.indented? true
  else if ch == '\'' then s.quoted? true
  else if ch == '"' then s.quoted? false
  else if ch == '%' || ch == '@' || ch.toNat == 0x60 then none
  else s.plain?

/-- Cuts off what comes next. -/
def step? (s : Scanner) : Option Scanner := do
  let s ← s.skipSpace
  let s ← s.dropStale?
  let s := s.unroll s.place.col
  let c := s.place
  match c.rest with
  | [] => s.streamEnd?
  | ch :: r =>
    if c.col == 0 && ch == '%' then s.directive?
    else if c.col == 0 && atMark '-' c.rest then s.documentStart?
    else if c.col == 0 && atMark '.' c.rest then s.documentEnd?
    else if c.col < s.indent then none
    else s.dispatch? ch r

/-- Some steps, up to the end of everything. -/
def steps? : Nat → Scanner → Option Scanner
  | 0, s => some s
  | fuel + 1, s =>
    if s.tokens.getLast? == some .streamEnd then some s else s.step?.bind (steps? fuel)

end Scanner

/-- The tokens of a text. A null character ends it. Each step takes at least one character. -/
def Token.scan? (text : String) : Option (List Token) :=
  let cs := text.toList.takeWhile (· != '\x00')
  (Scanner.steps? (cs.length + 2) { place := { rest := cs } }).map Scanner.tokens

end DbLifecycle.Yaml
