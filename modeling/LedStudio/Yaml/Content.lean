import LedStudio.Yaml.Lending

/-!
# What nodes hold

Nodes are given their contents level by level: a collection comes into being with its surroundings
and is filled when they are complete. So of two faults the one that is nested less deeply counts,
and a mapping that lends its pairs has them only if it was settled before. In a mapping the last of
equal keys wins.
-/

namespace LedStudio.Yaml

/-- A key of a mapping, by its node and by its value, and the node of what it leads to. -/
structure Entry where
  keyId : NodeId
  key : Value
  value : NodeId
  deriving Repr

/-- What a node holds; collections hold other nodes. -/
inductive Content where
  | leaf (v : Value)
  | items (ids : List NodeId)
  /-- A list of pairs. -/
  | rows (pairs : List (NodeId × NodeId))
  | entries (es : List Entry)
  /-- The keys alone. -/
  | members (es : List Entry)
  deriving Repr

/-- Sets what a key leads to: in place when the key is there, at the end when it is new. A node is
the same key as itself. -/
def Entry.insert (new : Entry) : List Entry → List Entry
  | [] => [new]
  | e :: rest =>
    if e.keyId = new.keyId || e.key.sameKey new.key then { e with value := new.value } :: rest
    else e :: insert new rest

/-- Nodes that are being given their contents. -/
structure Filling where
  graph : Graph
  /-- The contents of the nodes that have come into being. -/
  contents : Array (Option Content)
  /-- The collections that are still to be filled, latest first. -/
  waiting : List NodeId := []

/-- A step of giving contents, or why the document is refused. -/
abbrev Fill := StateT Filling Outcome

namespace Filling

/-- The document is refused. -/
def refuse {α : Type} : Fill α := throw .malformedDocument

def setContent (id : NodeId) (c : Content) : Fill Unit :=
  modify fun f => { f with contents := f.contents.setIfInBounds id (some c) }

/-- The value of a node that is no collection. A moment needs a text of its own. -/
def leafValue (g : Graph) (id : NodeId) : Outcome Value := do
  let points ← g.points id
  match g.tag id, g.body id with
  | .moment, .mapping _ => throw .momentInPairs
  | tag, _ => textValue tag points

/-- Brings a collection into being, which is filled later. -/
def await (id : NodeId) (c : Content) : Fill Content := do
  setContent id c
  modify fun f => { f with waiting := id :: f.waiting }
  return c

/-- Brings a node into being, unless it is there. -/
def bring (id : NodeId) : Fill Content := do
  let f ← get
  if let some (some c) := f.contents[id]? then return c
  match f.graph.tag id with
  | .sequence => await id (.items [])
  | .pairs => await id (.rows [])
  | .mapping => await id (.entries [])
  | .set => await id (.members [])
  | .merge | .default | .unknown => refuse
  | _ =>
    let c := Content.leaf (← leafValue f.graph id)
    setContent id c
    return c

/-- An entry of a mapping. Only what is no collection may be a key. -/
def entry (pair : NodeId × NodeId) : Fill Entry := do
  match ← bring pair.1 with
  | .leaf key =>
    let _ ← bring pair.2
    return ⟨pair.1, key, pair.2⟩
  | _ => refuse

/-- The pair that a mapping of one pair stands for. -/
def row (id : NodeId) : Fill (NodeId × NodeId) := do
  match (← get).graph.body id with
  | .mapping [(key, value)] =>
    let _ ← bring key
    let _ ← bring value
    return (key, value)
  | _ => refuse

/-- The entries of a mapping, once it is settled. -/
def entries (id : NodeId) : Fill (List Entry) := do
  let graph ← (← get).graph.settle id
  modify fun f => { f with graph }
  return (← (graph.pairs id).mapM entry).foldl (fun es e => e.insert es) []

/-- Fills a collection. -/
def fill (id : NodeId) : Fill Unit := do
  let g := (← get).graph
  match g.tag id, g.body id with
  | .sequence, .sequence items =>
    items.forM fun item => do let _ ← bring item
    setContent id (.items items)
  | .pairs, .sequence items => setContent id (.rows (← items.mapM row))
  | .mapping, .mapping _ => setContent id (.entries (← entries id))
  | .set, .mapping _ => setContent id (.members (← entries id))
  | _, _ => refuse

/-- Fills the collections that wait, level by level. -/
def fillAll : (fuel : Nat) → Fill Unit
  | 0 => return
  | fuel + 1 => do
    let waiting := (← get).waiting.reverse
    if waiting.isEmpty then return
    modify fun f => { f with waiting := [] }
    waiting.forM fill
    fillAll fuel

end Filling

/-- What the nodes under a root hold. Each level has a node of its own, so their number is fuel
enough. -/
def Graph.contents (g : Graph) (root : NodeId) : Outcome (Array (Option Content)) :=
  let start : Filling := { graph := g, contents := Array.replicate g.size none }
  let all : Fill Unit := do
    let _ ← Filling.bring root
    Filling.fillAll (g.size + 1)
  (all.run start).map fun (_, f) => f.contents

end LedStudio.Yaml
