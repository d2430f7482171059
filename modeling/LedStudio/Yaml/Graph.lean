import LedStudio.Yaml.Schema

/-!
# The nodes of a document

A node is a text, a sequence or a mapping. Nodes are known by their numbers, since one node may
stand in several places, even inside of itself.
-/

namespace LedStudio.Yaml

/-- The number of a node. -/
abbrev NodeId := Nat

/-- What a node is made of. -/
inductive Body where
  /-- A text by its code points. -/
  | scalar (points : List Nat)
  | sequence (items : List NodeId)
  | mapping (pairs : List (NodeId × NodeId))
  deriving DecidableEq, Repr, Inhabited

structure Node where
  tag : Tag
  body : Body
  deriving DecidableEq, Repr, Inhabited

namespace Node

/-- What stands where nothing was written. -/
def empty : Node := ⟨.null, .scalar []⟩

end Node

/-- Nodes by their numbers. -/
structure Graph where
  nodes : Array Node := #[]
  deriving Repr

namespace Graph

def node (g : Graph) (id : NodeId) : Node := (g.nodes[id]?).getD .empty

def tag (g : Graph) (id : NodeId) : Tag := (g.node id).tag

def body (g : Graph) (id : NodeId) : Body := (g.node id).body

def size (g : Graph) : Nat := g.nodes.size

/-- Adds a node; its number is the number of those before it. -/
def add (g : Graph) (n : Node) : NodeId × Graph := (g.nodes.size, ⟨g.nodes.push n⟩)

/-- Gives a node another body. -/
def setBody (g : Graph) (id : NodeId) (body : Body) : Graph :=
  ⟨g.nodes.setIfInBounds id ⟨g.tag id, body⟩⟩

/-- Gives a node another tag. -/
def setTag (g : Graph) (id : NodeId) (tag : Tag) : Graph :=
  ⟨g.nodes.setIfInBounds id ⟨tag, g.body id⟩⟩

/-- The pairs of a mapping; other nodes have none. -/
def pairs (g : Graph) (id : NodeId) : List (NodeId × NodeId) :=
  match g.body id with
  | .mapping pairs => pairs
  | _ => []

/-- How far a node leads to others of its kind before the document counts as too deep. -/
def chainLimit : Nat := 980

/-- The text of a node. A mapping has the text of the value of its first default key. -/
def pointsAlong (g : Graph) : (fuel : Nat) → NodeId → Outcome (List Nat)
  | 0, _ => .error .nestedTooDeeply
  | fuel + 1, id =>
    match g.body id with
    | .scalar points => .ok points
    | .sequence _ => malformed
    | .mapping pairs =>
      match pairs.find? fun (key, _) => g.tag key = .default with
      | some (_, value) => pointsAlong g fuel value
      | none => malformed

def points (g : Graph) (id : NodeId) : Outcome (List Nat) := pointsAlong g chainLimit id

end Graph
end LedStudio.Yaml
