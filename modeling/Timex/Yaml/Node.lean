import Timex.Yaml.Layout
import Timex.Yaml.Tag

/-!
# Nodes

A document is a graph of scalars, sequences and mappings, each with a tag. Nodes are
numbered in the order in which they begin, and a collection names its contents by
number: an alias is the number of the node that has the anchor, also inside that node.
The reader follows the grammar of the tokens by recursive descent.
-/

namespace Timex.Yaml

abbrev NodeId := Nat

inductive Content where
  | scalar (text : WideText)
  | sequence (items : List NodeId)
  | mapping (entries : List (NodeId × NodeId))
  deriving Repr

def Content.isMapping : Content → Bool
  | .mapping _ => true
  | _ => false

structure Node where
  tag : Tag
  content : Content
  deriving Repr

structure Graph where
  nodes : Array Node
  root : NodeId

namespace Node

/-- What stands where nothing is written. -/
def empty : Node := ⟨.null, .scalar []⟩

/-- What has been read so far of a document. -/
structure Progress where
  tokens : List Token
  /-- A collection that is still open is empty here. -/
  nodes : Array Node
  anchors : List (Text × NodeId)
  /-- Tag handles with what they stand for. -/
  handles : List (Text × Text)
  /-- The count of nodes that are still open. -/
  depth : Nat

abbrev Reader := StateT Progress (Except Error)

def malformed (why : String) : Reader α := throw (.malformed why)

/-! ## Tokens -/

/-- The next token, if there is one. -/
def peek : Reader (Option Token) := do
  match (← get).tokens with
  | .failure why :: _ => throw why
  | t :: _ => return some t
  | [] => return none

def skip : Reader Unit := modify fun p => { p with tokens := p.tokens.tail }

/-- Passes a token if it is the next one. -/
def accept (t : Token) : Reader Bool := do
  if (← peek) = some t then
    skip
    return true
  return false

/-- More nodes than these cannot be open: each takes two calls of the thousand that may be open
at once, and some twenty are open before the first. -/
def depthLimit : Nat := (1000 - 20) / 2

def enter : Reader Unit := do
  if depthLimit < (← get).depth then throw (.unconvertible .tooDeep)
  modify fun p => { p with depth := p.depth + 1 }

def leave : Reader Unit := modify fun p => { p with depth := p.depth - 1 }

/-! ## Numbers -/

/-- Gives a node the next number. -/
def add (n : Node) : Reader NodeId :=
  modifyGet fun p => (p.nodes.size, { p with nodes := p.nodes.push n })

def addEmpty : Reader NodeId := add empty

def define (id : NodeId) (n : Node) : Reader Unit :=
  modify fun p => { p with nodes := p.nodes.setIfInBounds id n }

/-! ## Anchors and tags -/

def aliased (name : Text) : Reader NodeId := do
  match (← get).anchors.lookup name with
  | some id => return id
  | none => malformed "an alias without an anchor"

/-- Names the node of a number. A name can be given once. -/
def setAnchor (name : Text) (id : NodeId) : Reader Unit := do
  if ((← get).anchors.lookup name).isSome then malformed "a second anchor of one name"
  modify fun p => { p with anchors := (name, id) :: p.anchors }

def anchor? : Reader (Option Text) := do
  match ← peek with
  | some (.anchor name) => skip; return some name
  | _ => return none

/-- The full name of a tag. -/
def expanded (t : WrittenTag) : Reader Text := do
  match t.handle with
  | none => return t.suffix
  | some handle =>
    match (← get).handles.lookup handle with
    | some expansion => return expansion ++ t.suffix
    | none => malformed "a tag handle that was not declared"

def tag? : Reader (Option Text) := do
  match ← peek with
  | some (.tag t) => skip; return some (← expanded t)
  | _ => return none

/-- An anchor and a tag, in either order. -/
def properties : Reader (Option Text × Option Text) := do
  match ← anchor? with
  | some name => return (some name, ← tag?)
  | none =>
    let t ← tag?
    return (← if t.isSome then anchor? else pure none, t)

/-- The tag of the form that a text has. -/
def formTag (text : WideText) : Tag := (text.toText?.map Tag.ofPlain).getD .text

/-- A tag that says no more than its sign leaves a scalar to its form. -/
def scalarTag (written : Option Text) (plain : Bool) (text : WideText) : Tag :=
  match written with
  | none => if plain then formTag text else .text
  | some name => if name = ['!'] then formTag text else .ofName name

def collectionTag (written : Option Text) (standIn : Tag) : Tag :=
  match written with
  | none => standIn
  | some name => if name = ['!'] then standIn else .ofName name

/-! ## The grammar -/

/-- Where a node stands. -/
inductive Place where
  /-- Between brackets: no block collection. -/
  | flow
  | block
  /-- In a block mapping: the entries of a sequence need no indentation. -/
  | blockMapping
  deriving DecidableEq, Repr

/-- Tokens in front of which the key or the value of a block mapping is empty. -/
def blockEnds : List Token := [.key, .value, .blockEnd]

mutual

def node (place : Place) : Nat → Reader NodeId
  | 0 => malformed "too deep"
  | fuel + 1 => do
    if let some (.alias name) := ← peek then
      skip
      return ← aliased name
    enter
    let (anchor, written) ← properties
    let id ← addEmpty
    if let some name := anchor then setAnchor name id
    let sequence := fun items => Node.mk (collectionTag written .sequence) (.sequence items)
    let mapping := fun entries => Node.mk (collectionTag written .mapping) (.mapping entries)
    let n ← match ← peek, place with
      | some (.scalar text plain), _ => do
        skip
        pure ⟨scalarTag written plain text, .scalar text⟩
      | some .flowSequenceStart, _ => do
        skip
        sequence <$> flowItems true fuel
      | some .flowMappingStart, _ => do
        skip
        mapping <$> flowEntries true fuel
      | some .blockSequenceStart, .block | some .blockSequenceStart, .blockMapping => do
        skip
        sequence <$> blockItems fuel
      | some .blockMappingStart, .block | some .blockMappingStart, .blockMapping => do
        skip
        mapping <$> blockEntries fuel
      | some .blockEntry, .blockMapping => sequence <$> levelItems fuel
      | _, _ =>
        if anchor.isSome || written.isSome then pure ⟨scalarTag written true [], .scalar []⟩
        else malformed "no node where one is expected"
    define id n
    leave
    return id

/-- A node, or an empty one in front of certain tokens. -/
def nodeBefore (ends : List Token) (place : Place) : Nat → Reader NodeId
  | 0 => malformed "too deep"
  | fuel + 1 => do
    if (← peek).any ends.contains then addEmpty else node place fuel

/-- A value after its sign. Without the sign it is empty. -/
def valueBefore (ends : List Token) (place : Place) : Nat → Reader NodeId
  | 0 => malformed "too deep"
  | fuel + 1 => do
    if ← accept .value then nodeBefore ends place fuel else addEmpty

def blockItems : Nat → Reader (List NodeId)
  | 0 => malformed "too deep"
  | fuel + 1 => do
    if ← accept .blockEntry then
      let item ← nodeBefore [.blockEntry, .blockEnd] .block fuel
      return item :: (← blockItems fuel)
    if ← accept .blockEnd then return []
    malformed "a block sequence that goes on with something else"

/-- The items of a sequence that is not indented. Nothing closes it. -/
def levelItems : Nat → Reader (List NodeId)
  | 0 => malformed "too deep"
  | fuel + 1 => do
    if ← accept .blockEntry then
      let item ← nodeBefore (.blockEntry :: blockEnds) .block fuel
      return item :: (← levelItems fuel)
    return []

def blockEntries : Nat → Reader (List (NodeId × NodeId))
  | 0 => malformed "too deep"
  | fuel + 1 => do
    if ← accept .key then
      let key ← nodeBefore blockEnds .blockMapping fuel
      let value ← valueBefore blockEnds .blockMapping fuel
      return (key, value) :: (← blockEntries fuel)
    if ← accept .blockEnd then return []
    malformed "a block mapping that goes on with something else"

/-- The items up to the closing bracket. An entry with a key is a mapping by itself. -/
def flowItems (first : Bool) : Nat → Reader (List NodeId)
  | 0 => malformed "too deep"
  | fuel + 1 => do
    if ← accept .flowSequenceEnd then return []
    if !first then
      if !(← accept .flowEntry) then malformed "no comma between the items of a flow sequence"
    if ← accept .key then
      let key ← nodeBefore [.value, .flowEntry, .flowSequenceEnd] .flow fuel
      let value ← valueBefore [.flowEntry, .flowSequenceEnd] .flow fuel
      let item ← add ⟨.mapping, .mapping [(key, value)]⟩
      return item :: (← flowItems false fuel)
    if ← accept .flowSequenceEnd then return []
    let item ← node .flow fuel
    return item :: (← flowItems false fuel)

def flowEntries (first : Bool) : Nat → Reader (List (NodeId × NodeId))
  | 0 => malformed "too deep"
  | fuel + 1 => do
    if ← accept .flowMappingEnd then return []
    if !first then
      if !(← accept .flowEntry) then malformed "no comma between the entries of a flow mapping"
    if ← accept .key then
      let key ← nodeBefore [.value, .flowEntry, .flowMappingEnd] .flow fuel
      let value ← valueBefore [.flowEntry, .flowMappingEnd] .flow fuel
      return (key, value) :: (← flowEntries false fuel)
    if ← accept .flowMappingEnd then return []
    let key ← node .flow fuel
    let value ← addEmpty
    return (key, value) :: (← flowEntries false fuel)

end

/-! ## Documents -/

def defaultHandles : List (Text × Text) :=
  [(['!'], ['!']), (['!', '!'], Tag.domain.toList)]

/-- Reads directives. Each may stand once, a handle once for each name. -/
def directives (version : Bool) (declared : List (Text × Text)) : Nat → Reader Unit
  | 0 => malformed "too many directives"
  | fuel + 1 => do
    match ← peek with
    | some (.directive d) =>
      skip
      match d with
      | .version major _ =>
        if version then malformed "a second version"
        if major ≠ 1 then malformed "an unknown version"
        directives true declared fuel
      | .tagHandle handle expansion =>
        if (declared.lookup handle).isSome then malformed "a second handle of one name"
        directives version ((handle, expansion) :: declared) fuel
      | .other => directives version declared fuel
    | _ => modify fun p => { p with handles := declared ++ defaultHandles }

/-- The tokens that begin or end a document. -/
def isBorder : Token → Bool
  | .directive _ | .documentStart | .documentEnd => true
  | _ => false

def skipDocumentEnds : Nat → Reader Unit
  | 0 => return ()
  | fuel + 1 => do
    if ← accept .documentEnd then skipDocumentEnds fuel

/-- Reads the only document, if there is one. A node takes at most four steps of the
grammar down to the next token, so the fuel lasts. -/
def document : Reader (Option NodeId) := do
  let fuel := 4 * (← get).tokens.length + 8
  let some first ← peek | return none
  let root ←
    if isBorder first && first ≠ .documentEnd then do
      directives false [] fuel
      if !(← accept .documentStart) then malformed "no document after the directives"
      if (← peek).all isBorder then addEmpty else node .block fuel
    else node .block fuel
  skipDocumentEnds fuel
  if (← peek).isSome then
    directives false [] fuel
    malformed "more than one document"
  return some root

end Node

def Graph.ofTokens (ts : List Token) : Except Error (Option Graph) := do
  let (root, p) ← Node.document.run ⟨ts, #[], [], Node.defaultHandles, 0⟩
  return root.map fun root => ⟨p.nodes, root⟩

end Timex.Yaml
