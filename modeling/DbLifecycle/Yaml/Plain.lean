import DbLifecycle.Yaml.Cursor

/-!
# YAML texts without quotes

A text without quotes ends before a comment, before a colon that makes it a key, and in brackets
before everything that stands for itself there. Its further lines are indented deeper than the block
it belongs to.

* `Yaml.plain?`: a text without quotes.
-/

namespace DbLifecycle.Yaml

/-- Whether the characters, which begin with no blank, go on with a text without quotes. -/
def inPlain (inFlow : Bool) : List Char → Bool
  | [] => false
  | c :: r =>
    !(c == ':' && (atWordEnd r || (inFlow && atFlowMark r))) && !(inFlow && isFlowMark c)

/-- The characters up to a blank, a line break or the end of the text. -/
def plainWord (inFlow : Bool) : List Char → List Char
  | [] => []
  | c :: r => if atWordEnd (c :: r) || !inPlain inFlow (c :: r) then [] else c :: plainWord inFlow r

/-- Reads blanks and line breaks between two words. Tabs do not indent a line, but one with nothing
else than a comment may have them; the line break after such a comment does not count. -/
def plainGap (indent : Int) : Nat → Gap → Cursor → Option (Gap × Cursor)
  | 0, g, c => some (g, c)
  | fuel + 1, g, c =>
    match c.rest with
    | [] => some (g, c)
    | ch :: _ =>
      if isBreak ch then
        let breaks := if g.breaks = 0 || c.isFresh then g.breaks + 1 else g.breaks
        plainGap indent fuel { g with breaks } c.newLine
      else if !isBlank ch then some (g, c)
      else if g.breaks = 0 then
        plainGap indent fuel { g with blanks := ch :: g.blanks } c.blank
      else if ch == '\t' && c.col < indent then c.lineEnd?.bind fun c => plainGap indent fuel g c
      else plainGap indent fuel g c.blank

/-- Reads words and gaps up to the end of the text. A gap counts only if a word follows. -/
def plainWords (indent : Int) (inFlow : Bool) :
    Nat → List Char → Gap → Cursor → Option (List Char × Cursor)
  | 0, _, _, _ => none
  | fuel + 1, seen, g, c =>
    if c.atDocumentMark || c.head? == some '#' then some (seen, c)
    else if inFlow && c.head? == some '-' && atFlowMark c.rest.tail then none
    else
      let word := plainWord inFlow c.rest
      let (seen, g) :=
        if word.isEmpty then (seen, g) else (word.reverse ++ g.text.reverse ++ seen, {})
      let c := c.next word.length
      if !atBlank c.rest && !atBreak c.rest then some (seen, c)
      else
        (plainGap indent (c.rest.length + 1) g c).bind fun (g, c) =>
          if !inFlow && c.col < indent then some (seen, c)
          else plainWords indent inFlow fuel seen g c

/-- A text without quotes in a block of some indentation. -/
def plain? (indent : Int) (inFlow : Bool) (c : Cursor) : Option (String × Cursor) :=
  if inFlow && c.col < indent + 1 then none
  else
    (plainWords (indent + 1) inFlow (c.rest.length + 1) [] {} c).map fun (seen, c) =>
      (String.ofList seen.reverse, c)

end DbLifecycle.Yaml
