import DbLifecycle.Json.Lexer
import DbLifecycle.Text.Decimal
import DbLifecycle.Toml.Moment
import DbLifecycle.Toml.Table

/-!
# Reading TOML

Every function reads one part from the front of the characters and returns what follows it; `none`
means that the text breaks the grammar there.

* `Toml.key`: names with points between them.
* `Toml.text`: the four kinds of quoted text.
* `Toml.scalar`: numbers, booleans and dates.
* `Toml.value`: values, arrays and tables in braces.
* `Toml.parse?`: the entries of a whole document.
-/

namespace DbLifecycle.Toml

/-! ## Blanks -/

/-- Blanks within a line. -/
def isBlank (c : Char) : Bool := c == ' ' || c == '\t'

/-- The characters after leading blanks of the line. -/
def skipBlank (cs : List Char) : List Char := cs.dropWhile isBlank

/-- Whether a character may stand in a comment or a quoted text of one line. -/
def isPrintable (c : Char) : Bool := c == '\t' || (0x20 ≤ c.toNat && c.toNat != 0x7f)

/-- The line break at the front, if there is one. -/
def lineBreak? : List Char → Option (List Char)
  | '\n' :: r => some r
  | '\r' :: '\n' :: r => some r
  | _ => none

/-- The characters of the line break at the front. -/
def breakChars (cs : List Char) : List Char := cs.take (if cs.head? = some '\r' then 2 else 1)

/-- The characters after a comment, if there is one, up to the end of the line. -/
def skipComment (cs : List Char) : List Char :=
  match cs with
  | '#' :: r => r.dropWhile isPrintable
  | _ => cs

/-- The characters after blanks, comments and line breaks; each step takes a line. -/
def skipLines : Nat → List Char → List Char
  | 0, cs => cs
  | fuel + 1, cs =>
    let cs := skipComment (skipBlank cs)
    match lineBreak? cs with
    | some r => skipLines fuel r
    | none => cs

/-- The characters after blanks, comments and line breaks. -/
def skipSpace (cs : List Char) : List Char := skipLines (cs.length + 1) cs

/-! ## Quoted text -/

/-- The value of a run of hexadecimal digits. -/
def hexNumber? (cs : List Char) : Option Nat :=
  cs.foldlM (fun n c => (Text.hexValue? c).map fun d => 16 * n + d) 0

/-- The character of a code point, unless it is a surrogate or too large. -/
def charOfCode? (n : Nat) : Option Char :=
  if n < 0xd800 ∨ (0xdfff < n ∧ n < 0x110000) then some (Char.ofNat n) else none

/-- The character an escape stands for, after its backslash. -/
def escape? : List Char → Option (Char × List Char)
  | 'b' :: r => some ('\x08', r)
  | 't' :: r => some ('\t', r)
  | 'n' :: r => some ('\n', r)
  | 'f' :: r => some ('\x0c', r)
  | 'r' :: r => some ('\r', r)
  | 'e' :: r => some ('\x1b', r)
  | '"' :: r => some ('"', r)
  | '\\' :: r => some ('\\', r)
  | 'x' :: r =>
    if r.length < 2 then none
    else (hexNumber? (r.take 2)).bind fun n => (charOfCode? n).map fun c => (c, r.drop 2)
  | 'u' :: r =>
    if r.length < 4 then none
    else (hexNumber? (r.take 4)).bind fun n => (charOfCode? n).map fun c => (c, r.drop 4)
  | 'U' :: r =>
    if r.length < 8 then none
    else (hexNumber? (r.take 8)).bind fun n => (charOfCode? n).map fun c => (c, r.drop 8)
  | _ => none

/-- Text in double quotes on one line, after the opening quote. -/
def basicText : Nat → List Char → Option (List Char × List Char)
  | 0, _ => none
  | _, '"' :: r => some ([], r)
  | fuel + 1, '\\' :: r =>
    (escape? r).bind fun p => (basicText fuel p.2).map fun q => (p.1 :: q.1, q.2)
  | fuel + 1, c :: r =>
    if isPrintable c then (basicText fuel r).map fun q => (c :: q.1, q.2) else none
  | _, [] => none

/-- Text in single quotes on one line, after the opening quote. -/
def literalText (cs : List Char) : Option (List Char × List Char) :=
  let body := cs.takeWhile fun c => isPrintable c && c != '\''
  match cs.drop body.length with
  | '\'' :: r => some (body, r)
  | _ => none

/-- Up to two quotes before the closing three belong to the text. -/
def closing (quote : Char) (cs : List Char) : Option (List Char × List Char) :=
  let n := (cs.takeWhile (· == quote)).length
  if n < 3 then none
  else
    let extra := min (n - 3) 2
    some (List.replicate extra quote, cs.drop (extra + 3))

/-- Text in three double quotes, after the opening ones and a line break that follows them. A
backslash at the end of a line skips to the next character that is no blank. -/
def longBasicText : Nat → List Char → Option (List Char × List Char)
  | 0, _ => none
  | _, [] => none
  | fuel + 1, '"' :: r =>
    match closing '"' ('"' :: r) with
    | some p => some p
    | none => (longBasicText fuel r).map fun q => ('"' :: q.1, q.2)
  | fuel + 1, '\\' :: r =>
    match lineBreak? (skipBlank r) with
    | some r' =>
      longBasicText fuel (r'.dropWhile fun c => isBlank c || c == '\n' || c == '\r')
    | none => (escape? r).bind fun p => (longBasicText fuel p.2).map fun q => (p.1 :: q.1, q.2)
  | fuel + 1, c :: r =>
    match lineBreak? (c :: r) with
    | some r' => (longBasicText fuel r').map fun q => (breakChars (c :: r) ++ q.1, q.2)
    | none => if isPrintable c then (longBasicText fuel r).map fun q => (c :: q.1, q.2) else none

/-- Text in three single quotes, after the opening ones and a line break that follows them. -/
def longLiteralText : Nat → List Char → Option (List Char × List Char)
  | 0, _ => none
  | _, [] => none
  | fuel + 1, '\'' :: r =>
    match closing '\'' ('\'' :: r) with
    | some p => some p
    | none => (longLiteralText fuel r).map fun q => ('\'' :: q.1, q.2)
  | fuel + 1, c :: r =>
    match lineBreak? (c :: r) with
    | some r' => (longLiteralText fuel r').map fun q => (breakChars (c :: r) ++ q.1, q.2)
    | none =>
      if isPrintable c then (longLiteralText fuel r).map fun q => (c :: q.1, q.2) else none

/-- Without a line break at the front. -/
def trimBreak (cs : List Char) : List Char := (lineBreak? cs).getD cs

/-- A quoted text of any kind, if there is one at the front. -/
def text? (cs : List Char) : Option (Option (List Char × List Char)) :=
  match cs with
  | '"' :: '"' :: '"' :: r => some (longBasicText (r.length + 1) (trimBreak r))
  | '\'' :: '\'' :: '\'' :: r => some (longLiteralText (r.length + 1) (trimBreak r))
  | '"' :: r => some (basicText (r.length + 1) r)
  | '\'' :: r => some (literalText r)
  | _ => none

/-! ## Keys -/

/-- Whether a character may stand in a name without quotes. -/
def isBare (c : Char) : Bool := c.isAlphanum || c == '_' || c == '-'

/-- One name of a key. -/
def keyName (cs : List Char) : Option (String × List Char) :=
  match cs with
  | '"' :: r => (basicText (r.length + 1) r).map fun p => (String.ofList p.1, p.2)
  | '\'' :: r => (literalText r).map fun p => (String.ofList p.1, p.2)
  | _ =>
    let name := cs.takeWhile isBare
    if name.isEmpty then none else some (String.ofList name, cs.drop name.length)

/-- Names with points between them. -/
def key : Nat → List Char → Option (List String × List Char)
  | 0, _ => none
  | fuel + 1, cs =>
    (keyName cs).bind fun p =>
      match skipBlank p.2 with
      | '.' :: r => (key fuel (skipBlank r)).map fun q => (p.1 :: q.1, q.2)
      | r => some ([p.1], r)

/-! ## Plain values -/

/-- Digits of a base without the underscores between them; each underscore has digits around it. -/
def digits? (isDigit : Char → Bool) (cs : List Char) : Option (List Char) :=
  let parts := cs.splitOn '_'
  if parts.all fun p => !p.isEmpty && p.all isDigit then some parts.flatten else none

/-- A whole number of 64 bits. -/
def int64? (n : Int) : Option Value.Scalar :=
  (Text.Integer.int64? n).map .int

/-- Digits without a zero at the front. -/
def decimal? (cs : List Char) : Option (List Char) :=
  (digits? Char.isDigit cs).bind fun ds =>
    match ds with
    | '0' :: _ :: _ => none
    | _ => some ds

/-- A number in base two, eight or sixteen, after its mark. -/
def based? (base : Nat) (cs : List Char) : Option Value.Scalar :=
  let isDigit := fun c => ((Text.hexValue? c).map fun d => decide (d < base)).getD false
  (digits? isDigit cs).bind fun ds =>
    int64? (ds.foldl (fun n c => base * n + ((Text.hexValue? c).getD 0)) 0)

/-- A double, which must be finite. -/
def finite? : Binary64 → Option Value.Scalar
  | .finite s m e => some (.float (.finite s m e))
  | _ => none

/-- A number with a point or an exponent. -/
def float? (negative : Bool) (cs : List Char) : Option Value.Scalar :=
  let isMark := fun c => c == '.' || c == 'e' || c == 'E'
  let whole := cs.takeWhile fun c => !isMark c
  let rest := cs.drop whole.length
  let exponentOf : List Char → Option Int
    | [] => some 0
    | _ :: '-' :: r => (digits? Char.isDigit r).map fun ds => -(Text.Integer.ofDigits ds : Int)
    | _ :: '+' :: r => (digits? Char.isDigit r).map fun ds => (Text.Integer.ofDigits ds : Int)
    | _ :: r => (digits? Char.isDigit r).map fun ds => (Text.Integer.ofDigits ds : Int)
  (decimal? whole).bind fun ws =>
    match rest with
    | '.' :: r =>
      let frac := r.takeWhile fun c => !isMark c
      (digits? Char.isDigit frac).bind fun fs =>
        match r.drop frac.length with
        | '.' :: _ => none
        | more => (exponentOf more).bind fun e =>
          finite? (.ofDecimal negative (Text.Integer.ofDigits (ws ++ fs)) (e - fs.length))
    | more => (exponentOf more).bind fun e =>
      finite? (.ofDecimal negative (Text.Integer.ofDigits ws) e)

/-- A number after its sign. -/
def number? (negative : Bool) (cs : List Char) : Option Value.Scalar :=
  if cs = "inf".toList then some (.float (.infinite negative))
  else if cs = "nan".toList then some (.float .nan)
  else
    match decimal? cs with
    | some ds =>
      let n : Int := Text.Integer.ofDigits ds
      int64? (if negative then -n else n)
    | none => float? negative cs

/-- Whether a word begins like a date: with a year and a dash. -/
def isDate (cs : List Char) : Bool :=
  (cs.takeWhile Char.isDigit).length == 4 && cs[4]? == some '-'

/-- Whether a word begins like a time: with an hour and a colon. -/
def isTime (cs : List Char) : Bool :=
  (cs.takeWhile Char.isDigit).length == 2 && cs[2]? == some ':'

/-- A date or a time as a text. -/
def dateText? (cs : List Char) : Option Value.Scalar :=
  (moment? cs).map fun t => .text (String.ofList t)

/-- The value of a word without quotes. -/
def word? (cs : List Char) : Option Value.Scalar :=
  match cs with
  | 't' :: 'r' :: 'u' :: 'e' :: [] => some (.bool true)
  | 'f' :: 'a' :: 'l' :: 's' :: 'e' :: [] => some (.bool false)
  | '0' :: 'x' :: r => based? 16 r
  | '0' :: 'o' :: r => based? 8 r
  | '0' :: 'b' :: r => based? 2 r
  | '+' :: r => number? false r
  | '-' :: r => number? true r
  | cs => if isDate cs || isTime cs then dateText? cs else number? false cs

/-- Whether a character may stand in a word without quotes. -/
def isWordChar (c : Char) : Bool :=
  c.isAlphanum || c == '+' || c == '-' || c == '.' || c == '_' || c == ':'

/-- A word without quotes. A date and a time may have one blank between them. -/
def scalar (cs : List Char) : Option (Value.Scalar × List Char) :=
  let word := cs.takeWhile isWordChar
  let rest := cs.drop word.length
  match rest with
  | ' ' :: r =>
    let time := r.takeWhile isWordChar
    if isDate word && isTime time then
      (dateText? (word ++ ' ' :: time)).map fun v => (v, r.drop time.length)
    else (word? word).map fun v => (v, rest)
  | _ => (word? word).map fun v => (v, rest)

/-! ## Values -/

/-- How deep arrays and tables in braces may be nested. -/
def maxDepth : Nat := 80

mutual

/-- One value, in which arrays and tables may be nested to a depth. -/
def value : Nat → Nat → List Char → Option (Node × List Char)
  | 0, _, _ => none
  | fuel + 1, depth, cs =>
    match text? cs with
    | some text => text.map fun p => (.leaf (.text (String.ofList p.1)), p.2)
    | none =>
      match cs, depth with
      | '[' :: r, d + 1 => (arrayItems fuel d (skipSpace r)).map fun p => (.list p.1, p.2)
      | '{' :: r, d + 1 =>
        (inlineMembers fuel d (skipSpace r) []).map fun p => (.table .closed p.1, p.2)
      | _, _ => (scalar cs).map fun p => (.leaf p.1, p.2)

/-- The items of an array up to its closing bracket; a comma may follow the last one. -/
def arrayItems : Nat → Nat → List Char → Option (List Node × List Char)
  | 0, _, _ => none
  | fuel + 1, depth, cs =>
    match cs with
    | ']' :: r => some ([], r)
    | _ =>
      (value fuel depth cs).bind fun p =>
        match skipSpace p.2 with
        | ']' :: r => some ([p.1], r)
        | ',' :: r => (arrayItems fuel depth (skipSpace r)).map fun q => (p.1 :: q.1, q.2)
        | _ => none

/-- The entries of a table in braces up to its closing brace; a comma may follow the last one. -/
def inlineMembers : Nat → Nat → List Char → Members → Option (Members × List Char)
  | 0, _, _, _ => none
  | fuel + 1, depth, cs, ms =>
    match cs with
    | '}' :: r => some (ms, r)
    | _ =>
      (key (cs.length + 1) cs).bind fun k =>
        match skipSpace k.2 with
        | '=' :: r =>
          (value fuel depth (skipSpace r)).bind fun v =>
            (setKey v.1 k.1 ms).bind fun ms =>
              match skipSpace v.2 with
              | '}' :: r => some (ms, r)
              | ',' :: r => inlineMembers fuel depth (skipSpace r) ms
              | _ => none
        | _ => none

end

/-! ## Documents -/

/-- A document while it is read: its entries and the way to the current table. -/
structure Document where
  members : Members := []
  current : List String := []

/-- A header: the names between its brackets, and what follows them. -/
def header (brackets : Nat) (cs : List Char) : Option (List String × List Char) :=
  (key (cs.length + 1) (skipBlank cs)).bind fun k =>
    let rest := skipBlank k.2
    if rest.take brackets = List.replicate brackets ']' then some (k.1, rest.drop brackets)
    else none

/-- One statement: a header or a key with its value. -/
def statement (d : Document) (cs : List Char) : Option (Document × List Char) :=
  match cs with
  | '[' :: '[' :: r =>
    (header 2 r).bind fun h => (pushTable h.1 d.members).map fun ms => (⟨ms, h.1⟩, h.2)
  | '[' :: r =>
    (header 1 r).bind fun h => (openTable h.1 d.members).map fun ms => (⟨ms, h.1⟩, h.2)
  | _ =>
    (key (cs.length + 1) cs).bind fun k =>
      match skipBlank k.2 with
      | '=' :: r =>
        let r := skipBlank r
        (value (2 * r.length + 2) maxDepth r).bind fun v =>
          (along (setKey v.1 k.1) d.current d.members).map fun ms => (⟨ms, d.current⟩, v.2)
      | _ => none

/-- The statements of a document, each on lines of its own. -/
def statements : Nat → Document → List Char → Option Document
  | 0, _, _ => none
  | fuel + 1, d, cs =>
    match skipSpace cs with
    | [] => some d
    | cs =>
      (statement d cs).bind fun p =>
        match skipComment (skipBlank p.2) with
        | [] => some p.1
        | rest => (lineBreak? rest).bind (statements fuel p.1)

/-- The entries of a document. -/
def parse? (text : String) : Option Members :=
  let cs := text.toList
  (statements (cs.length + 1) {} cs).map Document.members

end DbLifecycle.Toml
