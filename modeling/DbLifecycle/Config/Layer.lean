import DbLifecycle.Config.Value
import DbLifecycle.Dict
import DbLifecycle.Text.Integer

/-!
# Layers of values

Values are laid over one another: a table is merged key by key, everything else replaces what was
there.

* `Value.Entry`: a top-level key of a source and its value.
* `Value.overlay`: lays a value over another one.
* `Value.Key.parse`: a key is a name, possibly followed by further names after points and by indices
  in brackets; any other text is one name.
* `Value.put`: lays a value over what stands at the end of a way.
* `Value.merge`: lays the entries of a source over a value.
-/

namespace DbLifecycle

namespace Value

/-! ## Laying over -/

/-- The value of a missing key. -/
def absent : Value := .scalar none .null

/-- The entries of a table; any other value counts as an empty one. -/
def members : Value → List (String × Value)
  | .table _ ms => ms
  | _ => []

/-- The origin of a table; any other value counts as one without origin. -/
def tableOrigin : Value → Option Origin
  | .table origin _ => origin
  | _ => none

/-- The value under a key of a table. -/
def get? (k : String) (v : Value) : Option Value := Entries.lookup k v.members

mutual

/-- Lays a value over another one. -/
def overlay : Value → Value → Value
  | .table _ ms, old => .table old.tableOrigin (overlayMembers ms old.members)
  | .scalar origin v, _ => .scalar origin v
  | .list origin items, _ => .list origin items

/-- Lays the entries of a table over those of another one. -/
def overlayMembers : List (String × Value) → List (String × Value) → List (String × Value)
  | [], old => old
  | (k, v) :: r, old =>
    overlayMembers r (Entries.insert k (overlay v ((Entries.lookup k old).getD absent)) old)

end

/-! ## Keys -/

/-- One step of a key: a name, or an index that counts from the end if it is negative. -/
inductive KeyStep where
  | name (s : String)
  | index (n : Int)
  deriving DecidableEq, Repr

/-- Whether a character may stand in a name of a key with several steps. -/
def isNameChar (c : Char) : Bool := c.isAlphanum || c == '_' || c == '-'

/-- The index between brackets, with blanks around it, and what follows. It has at most 64 bits. -/
def indexStep? (cs : List Char) : Option (Int × List Char) :=
  let blank := fun c : Char => c == ' ' || c == '\t'
  let cs := cs.dropWhile blank
  let (negative, cs) := match cs with
    | '-' :: r => (true, r)
    | _ => (false, cs)
  let digits := cs.takeWhile Char.isDigit
  match (cs.dropWhile Char.isDigit).dropWhile blank with
  | ']' :: r =>
    if digits.isEmpty then none
    else
      let n : Int := Text.Integer.ofDigits digits
      (Text.Integer.int64? (if negative then -n else n)).map fun n => (n, r)
  | _ => none

/-- The steps after the first name; each takes at least one character. -/
def furtherSteps? : Nat → List Char → Option (List KeyStep)
  | _, [] => some []
  | 0, _ => none
  | fuel + 1, '.' :: r =>
    let name := r.takeWhile isNameChar
    if name.isEmpty then none
    else (furtherSteps? fuel (r.dropWhile isNameChar)).map (.name (String.ofList name) :: ·)
  | fuel + 1, '[' :: r =>
    (indexStep? r).bind fun p => (furtherSteps? fuel p.2).map (.index p.1 :: ·)
  | _, _ => none

/-- The steps of a key. A text that is no sequence of steps is one name as a whole. -/
def keySteps (key : String) : List KeyStep :=
  let cs := key.toList
  let name := cs.takeWhile isNameChar
  if name.isEmpty then [.name key]
  else
    match furtherSteps? cs.length (cs.dropWhile isNameChar) with
    | some steps => .name (String.ofList name) :: steps
    | none => [.name key]

/-! ## Putting values -/

/-- The origin and the items of a list; any other value counts as an empty one. -/
def items : Value → Option Origin × List Value
  | .list origin vs => (origin, vs)
  | _ => (none, [])

/-- Makes room for an index: missing places at the end, or at the front for an index that counts
back beyond the first item, are filled. The place of the index comes with the list. -/
def withRoom (n : Int) (vs : List Value) : List Value × Nat :=
  if 0 ≤ n then (vs ++ List.replicate (n.toNat + 1 - vs.length) absent, n.toNat)
  else
    let back := n.natAbs
    if back ≤ vs.length then (vs, vs.length - back)
    else (List.replicate (back - vs.length) absent ++ vs, 0)

/-- Lays a value over what stands at the end of a way. Values on the way that do not lead on are
replaced by tables and lists. -/
def put (new : Value) : List KeyStep → Value → Value
  | [], old => new.overlay old
  | .name k :: r, old =>
    .table old.tableOrigin (Entries.insert k (put new r ((old.get? k).getD absent)) old.members)
  | .index n :: r, old =>
    let (origin, vs) := old.items
    let (vs, i) := withRoom n vs
    .list origin (vs.set i (put new r (vs[i]?.getD absent)))

/-- A source's keys and their values. -/
abbrev Layer := List (String × Value)

/-- Lays the entries of a source over a value, one after another. -/
def merge (layer : Layer) (old : Value) : Value :=
  layer.foldl (fun v e => put e.2 (keySteps e.1) v) old

end Value

end DbLifecycle
