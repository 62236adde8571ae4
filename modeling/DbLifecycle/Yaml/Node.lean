import DbLifecycle.Yaml.Scalar
import DbLifecycle.Yaml.Token

/-!
# YAML nodes

The tokens of a document make up a tree. A reference stands for the node that its anchor names, as
far as that is complete.

* `Node`: scalars, lists and mappings.
* `Node.ofPairs?`: a mapping; no key may be given twice.
* `Node.ofTokens?`: the node of a text's one document.
-/

namespace DbLifecycle.Yaml

/-- A node. A node without a value comes from a text that does not fit its tag, or from a reference
within the node it refers to. -/
inductive Node where
  | void
  | scalar (v : Scalar)
  | list (items : List Node)
  | mapping (entries : List (Node × Node))
  deriving Repr, Inhabited

namespace Node

/-- The node where nothing is written. -/
def empty : Node := scalar .null

mutual

/-- Whether two nodes are the same. -/
def same : Node → Node → Bool
  | void, void => true
  | scalar v, scalar w => v == w
  | list vs, list ws => sameItems vs ws
  | mapping es, mapping fs => sameEntries es fs
  | _, _ => false

/-- Whether two lists have the same items. -/
def sameItems : List Node → List Node → Bool
  | [], [] => true
  | v :: r, w :: s => same v w && sameItems r s
  | _, _ => false

/-- Whether two mappings have the same entries. -/
def sameEntries : List (Node × Node) → List (Node × Node) → Bool
  | [], [] => true
  | (k, v) :: r, (l, w) :: s => same k l && same v w && sameEntries r s
  | _, _ => false

end

/-- Whether a node has no value. -/
def isVoid : Node → Bool
  | void => true
  | _ => false

/-- The entries that nodes make, which are keys and values in turn; a key without a value is passed
over, and one at the end as well. -/
def entriesOf? : List Node → List (Node × Node) → Option (List (Node × Node))
  | [], es => some es
  | [_], es => some es
  | k :: v :: r, es =>
    if k.isVoid then entriesOf? (v :: r) es
    else if es.any fun e => same k e.1 then none
    else entriesOf? r (es ++ [(k, v)])

/-- A mapping from pairs of nodes. -/
def ofPairs? (ps : List (Node × Node)) : Option Node :=
  (entriesOf? (ps.flatMap fun p => [p.1, p.2]) []).map mapping

end Node

/-! ## Reading tokens -/

/-- The tokens that are left, and what is known about names. -/
structure Feed where
  tokens : List Token
  /-- The handles of tags and what they stand for. -/
  handles : List (String × String) := []
  /-- The anchors and their numbers, the latest first. -/
  anchors : List (String × Nat) := []
  /-- The nodes that the anchors name. -/
  nodes : List (Nat × Node) := []

/-- Reads from tokens. -/
abbrev Feeding := StateT Feed Option

namespace Feed

/-- The next token. -/
def peek : Feeding Token := do
  match (← get).tokens with
  | t :: _ => pure t
  | [] => failure

/-- Passes over the next token. -/
def skip : Feeding Unit := modify fun f => { f with tokens := f.tokens.tail }

/-- A tag whose handle is replaced by what it stands for. A handle with a name must be declared. -/
def resolveTag (t : Tag) : Feeding Tag := do
  let isLocal := t.handle == "" && t.suffix == "!"
  match (← get).handles.lookup t.handle with
  | some stem => pure ⟨stem, t.suffix⟩
  | none =>
    if t.handle == "!!" then pure ⟨Scalar.coreHandle, t.suffix⟩
    else if isLocal || t.handle.length < 2 || t.handle.toList.getLast? != some '!' then pure t
    else failure

/-- Gives a new number to an anchor. -/
def anchor (name : String) : Feeding Nat := do
  let n := (← get).anchors.length
  modify fun f => { f with anchors := (name, n) :: f.anchors }
  pure n

/-- The node that an anchor names. -/
def refer (name : String) : Feeding Node := do
  let f ← get
  match f.anchors.lookup name with
  | some n => pure ((f.nodes.lookup n).getD .void)
  | none => failure

/-- Keeps in mind what an anchor names. -/
def complete (anchor : Option Nat) (v : Node) : Feeding Node := do
  match anchor with
  | some n => modify fun f => { f with nodes := (n, v) :: f.nodes }
  | none => pure ()
  pure v

/-- The anchor and the tag before a node, in either order. -/
def properties : Feeding (Option Nat × Option Tag) := do
  match ← peek with
  | .anchor name =>
    skip
    let n ← anchor name
    match ← peek with
    | .tag t => do skip; pure (some n, some (← resolveTag t))
    | _ => pure (some n, none)
  | .tag t =>
    skip
    let t ← resolveTag t
    match ← peek with
    | .anchor name => do skip; pure (some (← anchor name), some t)
    | _ => pure (none, some t)
  | _ => pure (none, none)

/-- The node of a scalar. -/
def scalarNode (isPlain : Bool) (text : String) (tag : Option Tag) : Node :=
  match isPlain, tag with
  | false, _ => .scalar (.text text)
  | true, none => .scalar (.ofPlain text)
  | true, some t => ((Scalar.ofTagged? t text).map Node.scalar).getD .void

/-- A mapping from its pairs. -/
def mappingOf (ps : List (Node × Node)) : Feeding Node :=
  match Node.ofPairs? ps with
  | some v => pure v
  | none => failure

/-- An anchor or a tag can stand alone. -/
def emptyNode (anchor : Option Nat) (tag : Option Tag) : Feeding Node :=
  if anchor.isSome || tag.isSome then pure (scalarNode true "" tag) else failure

/-- A comma between items. -/
def comma : Feeding Unit := do
  if (← peek) == .flowItem then skip else failure

mutual

/-- A node. `inBlock` allows mappings and lists of lines, and `loose` allows a list of lines that is
no deeper than what it belongs to. -/
def node : Nat → Bool → Bool → Feeding Node
  | 0, _, _ => failure
  | fuel + 1, inBlock, loose => do
    match ← peek with
    | .reference name => do skip; refer name
    | _ =>
      let (anchor, tag) ← properties
      let v ← match ← peek with
        | .scalar isPlain text => do skip; pure (scalarNode isPlain text tag)
        | .flowList => do skip; pure (.list (← flowItems fuel true))
        | .flowMapping => do skip; mappingOf (← flowEntries fuel true)
        | .blockItem =>
          if loose then do pure (.list (← looseItems fuel)) else emptyNode anchor tag
        | .blockList =>
          if inBlock then do skip; pure (.list (← blockItems fuel)) else emptyNode anchor tag
        | .blockMapping =>
          if inBlock then do skip; mappingOf (← blockEntries fuel) else emptyNode anchor tag
        | _ => emptyNode anchor tag
      complete anchor v

/-- A node, or nothing before some tokens. -/
def nodeUnless : Nat → List Token → Bool → Bool → Feeding Node
  | 0, _, _, _ => failure
  | fuel + 1, ends, inBlock, loose => do
    if (← peek) ∈ ends then pure .empty else node fuel inBlock loose

/-- The value after a key, if there is one. -/
def valueUnless : Nat → List Token → Bool → Feeding Node
  | 0, _, _ => failure
  | fuel + 1, ends, inBlock => do
    match ← peek with
    | .value => do skip; nodeUnless fuel ends inBlock inBlock
    | _ => pure .empty

/-- The items of a list of lines. -/
def blockItems : Nat → Feeding (List Node)
  | 0 => failure
  | fuel + 1 => do
    match ← peek with
    | .blockEnd => do skip; pure []
    | .blockItem => do
      skip
      let v ← nodeUnless fuel [.blockItem, .blockEnd] true false
      pure (v :: (← blockItems fuel))
    | _ => failure

/-- The items of a list of lines that is no deeper than what it belongs to. -/
def looseItems : Nat → Feeding (List Node)
  | 0 => failure
  | fuel + 1 => do
    match ← peek with
    | .blockItem => do
      skip
      let v ← nodeUnless fuel [.blockItem, .key, .value, .blockEnd] true false
      pure (v :: (← looseItems fuel))
    | _ => pure []

/-- The entries of a mapping of lines. -/
def blockEntries : Nat → Feeding (List (Node × Node))
  | 0 => failure
  | fuel + 1 => do
    let ends := [Token.key, .value, .blockEnd]
    match ← peek with
    | .blockEnd => do skip; pure []
    | .key => do
      skip
      let k ← nodeUnless fuel ends true true
      let v ← valueUnless fuel ends true
      pure ((k, v) :: (← blockEntries fuel))
    | .value => do
      let v ← valueUnless fuel ends true
      pure ((.empty, v) :: (← blockEntries fuel))
    | _ => failure

/-- The items of a list in brackets; a comma stands before each but the first. -/
def flowItems : Nat → Bool → Feeding (List Node)
  | 0, _ => failure
  | fuel + 1, isFirst => do
    if (← peek) == .flowListEnd then do skip; pure []
    else
      if !isFirst then comma
      match ← peek with
      | .flowListEnd => do skip; pure []
      | .key => do
        skip
        let p ← flowPair fuel
        let v ← mappingOf [p]
        pure (v :: (← flowItems fuel false))
      | _ => do
        let v ← node fuel false false
        pure (v :: (← flowItems fuel false))

/-- A single entry in a list; what stands in place of its key is passed over. -/
def flowPair : Nat → Feeding (Node × Node)
  | 0 => failure
  | fuel + 1 => do
    let ends := [Token.flowItem, .flowListEnd]
    let k ← if (← peek) ∈ Token.value :: ends then do skip; pure .empty else node fuel false false
    let v ← valueUnless fuel ends false
    pure (k, v)

/-- The entries of a mapping in braces; a comma stands before each but the first. -/
def flowEntries : Nat → Bool → Feeding (List (Node × Node))
  | 0, _ => failure
  | fuel + 1, isFirst => do
    let ends := [Token.flowItem, .flowMappingEnd]
    if (← peek) == .flowMappingEnd then do skip; pure []
    else
      if !isFirst then comma
      match ← peek with
      | .flowMappingEnd => do skip; pure []
      | .key => do
        skip
        let k ← nodeUnless fuel (.value :: ends) false false
        let v ← valueUnless fuel ends false
        pure ((k, v) :: (← flowEntries fuel false))
      | .value => do
        let v ← valueUnless fuel ends false
        pure ((.empty, v) :: (← flowEntries fuel false))
      | _ => do
        let k ← node fuel false false
        pure ((k, .empty) :: (← flowEntries fuel false))

end

/-! ## Documents -/

/-- Passes over the marks that end a document. -/
def skipEnds : Nat → Feeding Unit
  | 0 => pure ()
  | fuel + 1 => do
    match ← peek with
    | .documentEnd => do skip; skipEnds fuel
    | _ => pure ()

/-- The directives before a document. The last one alone counts, and there is at most one of the
version. -/
def directives : Nat → Bool → Feeding Unit
  | 0, _ => pure ()
  | fuel + 1, hasVersion => do
    match ← peek with
    | .directive .version => do
      if hasVersion then failure
      modify fun f => { f with handles := [] }
      skip
      directives fuel true
    | .directive (.handle name stem) => do
      modify fun f => { f with handles := [(name, stem)] }
      skip
      directives fuel hasVersion
    | _ => pure ()

/-- Whether a token cannot begin the node of a document. -/
def isOutside : Token → Bool
  | .directive _ | .documentStart | .documentEnd | .streamEnd => true
  | _ => false

/-- The node of a document. -/
def document (fuel : Nat) : Feeding Node := do
  match ← peek with
  | .directive _ | .documentStart =>
    directives fuel false
    if (← peek) != .documentStart then failure
    skip
    if isOutside (← peek) then pure .empty else node fuel true false
  | _ => node fuel true false

/-- The only document, if there is one. -/
def stream (fuel : Nat) : Feeding (Option Node) := do
  skipEnds fuel
  if (← peek) == .streamEnd then pure none
  else
    let v ← document fuel
    skipEnds fuel
    if (← peek) == .streamEnd then pure (some v) else failure

end Feed

/-- The node of the only document of some tokens, if there is one. Between two tokens there are at
most three calls. -/
def Node.ofTokens? (tokens : List Token) : Option (Option Node) :=
  ((Feed.stream (4 * tokens.length + 8)).run { tokens }).map Prod.fst

end DbLifecycle.Yaml
