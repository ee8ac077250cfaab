import Timex.Text.Base64
import Timex.Yaml.Document.Basic

/-!
# Nodes as objects

Objects are begun one after the other, each once. A scalar is finished at once; a
collection is begun empty and filled later, after every object that was begun before its
contents. So of two failures the one that is less deep counts, and of two on one level
the first. Filling a mapping adds the entries of the mappings that it merges, for good:
whoever merges this mapping in turn finds them in it.
-/

namespace Timex.Yaml.Conversion

structure Progress where
  nodes : Array Node
  objects : Array (Option Object)

abbrev Maker := StateT Progress (Except Error)

def malformed (why : String) : Maker α := throw (.malformed why)

/-! ## Scalars -/

def booleans : List (String × Bool) :=
  [("yes", true), ("no", false), ("true", true), ("false", false), ("on", true), ("off", false)]

def boolean (t : WideText) : Except ConversionError Bool :=
  let t := t.lower
  match t.toText?.bind fun t => booleans.lookup (String.ofList t) with
  | some b => .ok b
  | none => .error (.boolean t)

def timestamp (t : WideText) : Except ConversionError Value :=
  match t.toText?.bind fun t => Timestamp.read? (Tag.withoutLastBreak t) with
  | some d => d.toValue
  | none => .error .timestamp

/-- Octets in base 64, of ASCII characters alone. -/
def binary? (t : WideText) : Option Value := do
  let t ← t.toText?
  if t.all fun c => c.toNat < 0x80 then .octets <$> Text.Base64.decode? t else none

def isScalarTag : Tag → Bool
  | .null | .boolean | .integer | .float | .timestamp | .text | .binary => true
  | _ => false

/-- The value of a text under a tag of scalars. -/
def scalarValue (tag : Tag) (t : WideText) : Except Error Value :=
  let converted := Except.mapError .unconvertible
  match tag with
  | .boolean => converted (.bool <$> boolean t)
  | .integer => converted (.integer <$> Number.integer t)
  | .float => converted (.float <$> Number.float t)
  | .timestamp => converted (timestamp t)
  | .text => .ok (.ofWideText t)
  | .binary =>
    match binary? t with
    | some v => .ok v
    | none => .error (.malformed "text that is not base 64")
  | _ => .ok .null

/-- The text of a scalar. A mapping has the text of its default entry, and there is none
where default entries go round in a circle. -/
def textOf (nodes : Array Node) : Nat → NodeId → Except Error WideText
  | 0, _ => .error (.unconvertible .tooDeep)
  | fuel + 1, id =>
    match nodes[id]?.map Node.content with
    | some (.scalar t) => .ok t
    | some (.mapping entries) =>
      match entries.find? fun (k, _) => nodes[k]?.any (·.tag = .default) with
      | some (_, v) => textOf nodes fuel v
      | none => .error (.malformed "a mapping in place of a scalar")
    | _ => .error (.malformed "a sequence in place of a scalar")

/-! ## Progress -/

def node (id : NodeId) : Maker Node := do return (← get).nodes[id]?.getD .empty

def setNode (id : NodeId) (n : Node) : Maker Unit :=
  modify fun p => { p with nodes := p.nodes.setIfInBounds id n }

def object? (id : NodeId) : Maker (Option Object) := do return (← get).objects[id]?.join

def setObject (id : NodeId) (o : Object) : Maker Unit :=
  modify fun p => { p with objects := p.objects.setIfInBounds id (some o) }

/-! ## Beginning -/

/-- The empty collection of a tag. -/
def emptyOf : Tag → Option Object
  | .sequence => some (.list [])
  | .pairs => some (.pairs [])
  | .mapping => some (.map [])
  | .set => some (.set [])
  | _ => none

/-- The scalar of a node. The number that is no number has one identity for all the nodes
that name it. -/
def scalar (id : NodeId) (n : Node) : Maker Object := do
  if !isScalarTag n.tag then malformed "a tag without a meaning"
  let nodes := (← get).nodes
  let t ← textOf nodes (nodes.size + 1) id
  if n.tag = .timestamp ∧ n.content.isMapping then throw (.unconvertible .mappedTimestamp)
  let v ← scalarValue n.tag t
  return .scalar (if n.tag = .float ∧ Number.namesNan t then nodes.size else id) v

/-- Begins the object of a node, unless that is done. Gives back what is to be filled. -/
def start (id : NodeId) : Maker (List NodeId) := do
  if (← object? id).isSome then return []
  let n ← node id
  match emptyOf n.tag with
  | some o =>
    setObject id o
    return [id]
  | none =>
    setObject id (← scalar id n)
    return []

/-! ## Merging -/

/-- The first mapping to merge of some entries, with the entries that are left. -/
def takeMerge (nodes : Array Node) :
    List (NodeId × NodeId) → Option (NodeId × List (NodeId × NodeId))
  | [] => none
  | (k, v) :: entries =>
    if nodes[k]?.any (·.tag = .merge) then some (v, entries)
    else (takeMerge nodes entries).map fun (w, rest) => (w, (k, v) :: rest)

def entriesOf (id : NodeId) : Maker (Option (List (NodeId × NodeId))) := do
  match (← node id).content with
  | .mapping entries => return some entries
  | _ => return none

def setEntries (id : NodeId) (entries : List (NodeId × NodeId)) : Maker Unit := do
  setNode id { ← node id with content := .mapping entries }

/-- A default key is a text among others from now on. -/
def settleDefaults (entries : List (NodeId × NodeId)) : Maker Unit :=
  entries.forM fun (k, _) => do
    let n ← node k
    if n.tag = .default then setNode k { n with tag := .text }

def notMergeable : Maker α := malformed "something else than mappings to merge"

mutual

/-- Puts the entries that a mapping merges in front of its own. Each step takes one merging
entry away for good, so that fuel for all entries lasts. -/
def merge : Nat → NodeId → Maker Unit
  | 0, _ => notMergeable
  | fuel + 1, id => do
    let some entries ← entriesOf id | return
    match takeMerge (← get).nodes entries with
    | none => settleDefaults entries
    | some (source, rest) =>
      setEntries id rest
      let added ← sourceEntries fuel source
      merge fuel id
      setEntries id (added ++ (← entriesOf id).getD [])

/-- What is merged from a node. Of a sequence of mappings the first is added last. -/
def sourceEntries : Nat → NodeId → Maker (List (NodeId × NodeId))
  | 0, _ => notMergeable
  | fuel + 1, id => do
    match (← node id).content with
    | .mapping _ => mergedEntries fuel id
    | .sequence items => return (← items.mapM (mergedEntries fuel)).reverse.flatten
    | .scalar _ => notMergeable

/-- The entries of a mapping after it has merged others. -/
def mergedEntries : Nat → NodeId → Maker (List (NodeId × NodeId))
  | 0, _ => notMergeable
  | fuel + 1, id => do
    merge fuel id
    match ← entriesOf id with
    | some entries => return entries
    | none => notMergeable

end

/-! ## Filling -/

/-- Adds an entry: a present key keeps its place and gets the new value. -/
def put (same : α → α → Bool) (entries : List (α × β)) (key : α) (value : β) : List (α × β) :=
  if entries.any fun e => same e.1 key then
    entries.map fun e => if same e.1 key then (e.1, value) else e
  else entries ++ [(key, value)]

def sameKey (objects : Array (Option Object)) (a b : NodeId) : Bool :=
  match objects[a]?.join, objects[b]?.join with
  | some x, some y => x.sameKey y
  | _, _ => false

/-- Begins the keys and the values of a mapping. -/
def startEntries (fuel : Nat) (id : NodeId) : Maker (List (NodeId × NodeId) × List NodeId) := do
  merge fuel id
  let entries := (← entriesOf id).getD []
  let begun ← entries.flatMapM fun (k, v) => do
    let inKey ← start k
    if !(← object? k).any Object.isKey then malformed "a collection as a key"
    return inKey ++ (← start v)
  let same := sameKey (← get).objects
  return (entries.foldl (fun es (k, v) => put same es k v) [], begun)

/-- Begins the key and the value of a mapping with one entry. -/
def startPair (id : NodeId) : Maker ((NodeId × NodeId) × List NodeId) := do
  match ← entriesOf id with
  | some [(k, v)] =>
    let inKey ← start k
    return ((k, v), inKey ++ (← start v))
  | _ => malformed "something else than a mapping with one entry"

/-- Fills a collection. Gives back what is to be filled after it. -/
def fill (fuel : Nat) (id : NodeId) : Maker (List NodeId) := do
  let n ← node id
  match n.tag, n.content with
  | .sequence, .sequence items =>
    setObject id (.list items)
    items.flatMapM start
  | .pairs, .sequence items =>
    let made ← items.mapM startPair
    setObject id (.pairs (made.map Prod.fst))
    return made.flatMap Prod.snd
  | .mapping, .mapping _ =>
    let (entries, begun) ← startEntries fuel id
    setObject id (.map entries)
    return begun
  | .set, .mapping _ =>
    let (entries, begun) ← startEntries fuel id
    setObject id (.set (entries.map Prod.fst))
    return begun
  | _, _ => malformed "a collection of another kind than its tag says"

/-- Fills level after level. There are no more levels than nodes. -/
def fillAll (fuel : Nat) : Nat → List NodeId → Maker Unit
  | 0, _ => return ()
  | _, [] => return ()
  | levels + 1, ids => do fillAll fuel levels (← ids.flatMapM (fill fuel))

end Conversion

/-- Three for every entry of a mapping and three more: merging takes no more steps. -/
def Graph.mergeFuel (g : Graph) : Nat :=
  g.nodes.foldl (fun n node =>
    match node.content with
    | .mapping entries => n + 3 * entries.length
    | _ => n) 3

def Graph.toDocument (g : Graph) : Except Error Document := do
  let made := do
    Conversion.fillAll g.mergeFuel (g.nodes.size + 1) (← Conversion.start g.root)
  let ((), p) ← made.run ⟨g.nodes, Array.replicate g.nodes.size none⟩
  return ⟨p.objects, g.root⟩

end Timex.Yaml
