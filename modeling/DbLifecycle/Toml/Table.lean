import DbLifecycle.Config.Value
import DbLifecycle.Dict

/-!
# TOML tables

A document is a table that its statements build up. How a table came about decides what may still
be added to it, and no key may be set twice.

* `Toml.Node`: a value of a document under construction.
* `Toml.setKey`: what a statement `a.b = v` does.
* `Toml.openTable`, `Toml.pushTable`: what the headers `[a.b]` and `[[a.b]]` do.
* `Toml.Node.toValue`: the finished value.
-/

namespace DbLifecycle.Toml

/-- How a table came about. -/
inductive Kind where
  /-- On the way of a header to a deeper table. -/
  | implicit
  /-- By a header of its own. -/
  | header
  /-- On the way of a key with several names. -/
  | dotted
  /-- Written in braces; nothing may be added. -/
  | closed
  deriving DecidableEq, Repr

/-- A value of a document under construction. -/
inductive Node where
  | leaf (v : Value.Scalar)
  | list (items : List Node)
  /-- The tables of one repeated header, the current one last. -/
  | tables (items : List Node)
  | table (kind : Kind) (members : List (String × Node))
  deriving Repr, Inhabited

/-- The keys of a table and their values. -/
abbrev Members := List (String × Node)

/-! ## Keys -/

/-- Sets a value at the end of a way of names. Tables of headers or braces are not entered. -/
def setKey (v : Node) : List String → Members → Option Members
  | [], _ => none
  | [k], ms =>
    match Entries.lookup k ms with
    | none => some (Entries.insert k v ms)
    | some _ => none
  | k :: r, ms =>
    match Entries.lookup k ms with
    | none => (setKey v r []).map fun inner => Entries.insert k (.table .dotted inner) ms
    | some (.table kind inner) =>
      if kind = .dotted ∨ kind = .implicit then
        (setKey v r inner).map fun inner => Entries.insert k (.table kind inner) ms
      else none
    | some _ => none

/-! ## Headers -/

/-- Changes the table under a key, making it if it is missing; of the tables of a repeated header
the last one is meant. -/
def inside (f : Members → Option Members) (k : String) (ms : Members) : Option Members :=
  match Entries.lookup k ms with
  | none => (f []).map fun inner => Entries.insert k (.table .implicit inner) ms
  | some (.table kind inner) =>
    if kind = .closed then none
    else (f inner).map fun inner => Entries.insert k (.table kind inner) ms
  | some (.tables items) =>
    match items.getLast? with
    | some (.table kind inner) =>
      (f inner).map fun inner =>
        Entries.insert k (.tables (items.dropLast ++ [.table kind inner])) ms
    | _ => none
  | some _ => none

/-- Changes the table at the end of a way of names. -/
def along (f : Members → Option Members) : List String → Members → Option Members
  | [], ms => f ms
  | k :: r, ms => inside (along f r) k ms

/-- Opens the table of a header, which must not have been defined before. -/
def openLast (k : String) (ms : Members) : Option Members :=
  match Entries.lookup k ms with
  | none => some (Entries.insert k (.table .header []) ms)
  | some (.table .implicit inner) => some (Entries.insert k (.table .header inner) ms)
  | some _ => none

/-- Adds a table to those of a repeated header. -/
def pushLast (k : String) (ms : Members) : Option Members :=
  match Entries.lookup k ms with
  | none => some (Entries.insert k (.tables [.table .header []]) ms)
  | some (.tables items) => some (Entries.insert k (.tables (items ++ [.table .header []])) ms)
  | some _ => none

/-- What the header `[a.b]` does. -/
def openTable (path : List String) (ms : Members) : Option Members :=
  match path.getLast? with
  | some k => along (openLast k) path.dropLast ms
  | none => none

/-- What the header `[[a.b]]` does. -/
def pushTable (path : List String) (ms : Members) : Option Members :=
  match path.getLast? with
  | some k => along (pushLast k) path.dropLast ms
  | none => none

/-! ## Finished values -/

mutual

/-- The finished value. -/
def Node.toValue (origin : Value.Origin) : Node → Value
  | .leaf v => .scalar (some origin) v
  | .list items => .list (some origin) (itemValues origin items)
  | .tables items => .list (some origin) (itemValues origin items)
  | .table _ ms => .table (some origin) (memberValues origin ms)

/-- The finished values of the items of a list. -/
def itemValues (origin : Value.Origin) : List Node → List Value
  | [] => []
  | v :: r => v.toValue origin :: itemValues origin r

/-- The finished values of the keys of a table. -/
def memberValues (origin : Value.Origin) : List (String × Node) → List (String × Value)
  | [] => []
  | (k, v) :: r => (k, v.toValue origin) :: memberValues origin r

end

end DbLifecycle.Toml
