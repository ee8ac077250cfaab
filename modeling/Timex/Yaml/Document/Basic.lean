import Timex.Value.Order
import Timex.Yaml.Node

/-!
# Documents

A document in terms of values: every node has become an object, and a collection names
its contents by number. So one object can stand in several places, and inside itself.
`Document.value` unfolds an object into a value; a collection inside itself is only
named there.
-/

namespace Timex.Yaml

inductive Object where
  /-- Scalars of one identity are one key, whether they are equal or not. -/
  | scalar (identity : Nat) (v : Value)
  | list (items : List NodeId)
  | pairs (items : List (NodeId × NodeId))
  | map (entries : List (NodeId × NodeId))
  | set (members : List NodeId)

namespace Object

def isKey : Object → Bool
  | .scalar .. => true
  | _ => false

def sameKey : Object → Object → Bool
  | .scalar i v, .scalar j w => i == j || v.sameKey w
  | _, _ => false

end Object

structure Document where
  objects : Array (Option Object)
  root : NodeId

namespace Document

def object? (d : Document) (id : NodeId) : Option Object := d.objects[id]?.join

/-- Unfolds an object. It stands inside the collections of `around`, which all differ, so
that fuel for one more than all objects lasts. -/
def unfold (d : Document) : Nat → List NodeId → NodeId → Value
  | 0, _, _ => .null
  | fuel + 1, around, id =>
    let inner := d.unfold fuel (id :: around)
    match d.object? id with
    | some (.scalar _ v) => v
    | some (.list items) =>
      if around.contains id then .outerList else .list (items.map inner)
    | some (.pairs items) =>
      if around.contains id then .outerList
      else .list (items.map fun (a, b) => .pair (inner a) (inner b))
    | some (.map entries) =>
      if around.contains id then .outerMap
      else .map (entries.map fun (k, v) => (inner k, inner v))
    | some (.set members) => .set (Value.tableOrder (members.map inner))
    | none => .null

/-- The value of an object by itself. -/
def value (d : Document) (id : NodeId) : Value := d.unfold (d.objects.size + 1) [] id

/-- The entries of a map, if the object is one. -/
def entries? (d : Document) (id : NodeId) : Option (List (NodeId × NodeId)) :=
  match d.object? id with
  | some (.map entries) => some entries
  | _ => none

def isText (d : Document) (key : Text) (id : NodeId) : Bool :=
  match d.object? id with
  | some (.scalar _ v) => v.sameKey (.text key)
  | _ => false

/-- What stands under a text in a map. -/
def get? (d : Document) (id : NodeId) (key : Text) : Option NodeId := do
  let entries ← d.entries? id
  (entries.find? fun (k, _) => d.isText key k).map Prod.snd

end Document
end Timex.Yaml
