import LedStudio.Yaml.Graph
import LedStudio.Yaml.Token

/-!
# Nodes out of tokens

The tokens of a document spell the nodes of a graph. A node may be named, and an alias stands for
the node that was named before; a name may be given once. A collection has its name before it has
its contents, so that it may stand inside of itself. Where the tokens end too early, the reason why
there are no more is the reason why the document is refused.
-/

namespace LedStudio.Yaml

/-- The tag of a node: its own, if it is a name, or else the one that is implied. -/
def tagOr (implied : Tag) : Option String → Tag
  | none => implied
  | some name => if name = "!" then implied else .ofName name

/-- The tag of a text. Only a plain text without a tag, or one with an open tag, is looked at. -/
def scalarTag (tag : Option String) (points : List Nat) (isPlain : Bool) : Tag :=
  tagOr (if tag.isNone && !isPlain then .text else impliedTag points) tag

/-- The tokens that are left, and what is known while they are read. -/
structure Reading where
  tokens : List Token
  /-- Why there are no more tokens; none if they are complete. -/
  stop : Option Fault
  handles : List (String × String) := commonHandles
  graph : Graph := {}
  /-- The nodes that have a name. -/
  named : List (String × NodeId) := []
  /-- How deep nodes may be nested from here on. -/
  room : Nat

/-- A step of reading, or why the document is refused. -/
abbrev Read := StateT Reading Outcome

namespace Reading

/-- The document is refused. -/
def refuse {α : Type} : Read α := throw .malformedDocument

/-- The next token; there is none at the end of the document. -/
def peek : Read (Option Token) := fun r =>
  match r.tokens, r.stop with
  | t :: _, _ => .ok (some t, r)
  | [], none => .ok (none, r)
  | [], some f => .error f

/-- Leaves the next token behind. -/
def drop : Read Unit := modify fun r => { r with tokens := r.tokens.tail }

/-- The next token is one of these. -/
def sees (ts : List Token) : Read Bool := return (← peek).any ts.contains

/-- Adds a node, which may have a name. -/
def add (name : Option String) (n : Node) : Read NodeId := do
  let r ← get
  if name.any fun name => r.named.any (·.1 = name) then refuse
  let (id, graph) := r.graph.add n
  set { r with graph, named := (name.map fun name => (name, id)).toList ++ r.named }
  return id

/-- A node for what was not written. -/
def addEmpty : Read NodeId := add none .empty

/-- The node that an alias stands for. -/
def aliased (name : String) : Read NodeId := do
  match (← get).named.lookup name with
  | some id => drop; return id
  | none => refuse

/-- The name in front of a node. -/
def anchor? : Read (Option String) := do
  match ← peek with
  | some (.anchor name) => drop; return some name
  | _ => return none

/-- The tag in front of a node. -/
def tag? : Read (Option WrittenTag) := do
  match ← peek with
  | some (.tag t) => drop; return some t
  | _ => return none

/-- The name and the tag in front of a node, in either order. -/
def properties : Read (Option String × Option String) := do
  let first ← anchor?
  let tag ← tag?
  let name ← if first.isNone && tag.isSome then anchor? else pure first
  match tag with
  | none => return (name, none)
  | some t => return (name, some (← t.name (← get).handles))

/-- Reads the contents of a collection, which is added before them. -/
def collection (name : Option String) (n : Node) (contents : Read Body) : Read NodeId := do
  let id ← add name n
  modify fun r => { r with room := r.room - 1 }
  let body ← contents
  modify fun r => { r with room := r.room + 1, graph := r.graph.setBody id body }
  return id

mutual
/-- A node. Outside of flow collections it may be a block collection; as the value of a key it may
be a sequence that is not indented. -/
def node : (fuel : Nat) → (inBlock unindented : Bool) → Read NodeId
  | 0, _, _ => refuse
  | fuel + 1, inBlock, unindented => do
    if let some (.alias name) ← peek then return ← aliased name
    if (← get).room = 0 then throw .nestedTooDeeply
    let (name, tag) ← properties
    let list (items : Read (List NodeId)) : Read NodeId :=
      collection name ⟨tagOr .sequence tag, .sequence []⟩ (return .sequence (← items))
    let map (pairs : Read (List (NodeId × NodeId))) : Read NodeId :=
      collection name ⟨tagOr .mapping tag, .mapping []⟩ (return .mapping (← pairs))
    let bare : Read NodeId :=
      if name.isSome || tag.isSome then add name ⟨scalarTag tag [] true, .scalar []⟩ else refuse
    match ← peek with
    | some (.scalar points isPlain) =>
      drop
      add name ⟨scalarTag tag points isPlain, .scalar points⟩
    | some .flowSequence => list (do drop; flowItems fuel true)
    | some .flowMapping => map (do drop; flowPairs fuel true)
    | some .blockEntry => if unindented then list (plainItems fuel) else bare
    | some .blockSequence => if inBlock then list (do drop; blockItems fuel) else bare
    | some .blockMapping => if inBlock then map (do drop; blockPairs fuel) else bare
    | _ => bare

/-- A node, or an empty one if one of these tokens comes instead. -/
def nodeUnless : (fuel : Nat) → (stops : List Token) → (inBlock unindented : Bool) → Read NodeId
  | 0, _, _, _ => refuse
  | fuel + 1, stops, inBlock, unindented => do
    if ← sees stops then addEmpty else node fuel inBlock unindented

/-- The items of an indented sequence. -/
def blockItems : (fuel : Nat) → Read (List NodeId)
  | 0 => refuse
  | fuel + 1 => do
    match ← peek with
    | some .blockEntry =>
      drop
      let id ← nodeUnless fuel [.blockEntry, .blockEnd] true false
      return id :: (← blockItems fuel)
    | some .blockEnd => drop; return []
    | _ => refuse

/-- The items of a sequence that is not indented; it ends where no item follows. -/
def plainItems : (fuel : Nat) → Read (List NodeId)
  | 0 => refuse
  | fuel + 1 => do
    match ← peek with
    | some .blockEntry =>
      drop
      let id ← nodeUnless fuel [.blockEntry, .key, .value, .blockEnd] true false
      return id :: (← plainItems fuel)
    | _ => return []

/-- The pairs of a block mapping. -/
def blockPairs : (fuel : Nat) → Read (List (NodeId × NodeId))
  | 0 => refuse
  | fuel + 1 => do
    match ← peek with
    | some .key =>
      drop
      let stops := [Token.key, .value, .blockEnd]
      let key ← nodeUnless fuel stops true true
      let value ←
        if ← sees [.value] then do drop; nodeUnless fuel stops true true else addEmpty
      return (key, value) :: (← blockPairs fuel)
    | some .blockEnd => drop; return []
    | _ => refuse

/-- A pair inside of a flow collection, behind the mark of a key; its parts may be missing. -/
def flowPair : (fuel : Nat) → (close : Token) → Read (NodeId × NodeId)
  | 0, _ => refuse
  | fuel + 1, close => do
    let key ← nodeUnless fuel [.value, .flowEntry, close] false false
    let value ←
      if ← sees [.value] then do drop; nodeUnless fuel [.flowEntry, close] false false
      else addEmpty
    return (key, value)

/-- The items of a flow sequence; an item that is marked as a key is a mapping of one pair. -/
def flowItems : (fuel : Nat) → (isFirst : Bool) → Read (List NodeId)
  | 0, _ => refuse
  | fuel + 1, isFirst => do
    if !isFirst && !(← sees [.flowSequenceEnd]) then
      if ← sees [.flowEntry] then drop else refuse
    match ← peek with
    | some .flowSequenceEnd => drop; return []
    | some .key =>
      drop
      let id ← collection none ⟨.mapping, .mapping []⟩
        (return .mapping [← flowPair fuel .flowSequenceEnd])
      return id :: (← flowItems fuel false)
    | _ =>
      let id ← node fuel false false
      return id :: (← flowItems fuel false)

/-- The pairs of a flow mapping; a node that is not marked as a key has no value. -/
def flowPairs : (fuel : Nat) → (isFirst : Bool) → Read (List (NodeId × NodeId))
  | 0, _ => refuse
  | fuel + 1, isFirst => do
    if !isFirst && !(← sees [.flowMappingEnd]) then
      if ← sees [.flowEntry] then drop else refuse
    match ← peek with
    | some .flowMappingEnd => drop; return []
    | some .key =>
      drop
      let pair ← flowPair fuel .flowMappingEnd
      return pair :: (← flowPairs fuel false)
    | _ =>
      let key ← node fuel false false
      let value ← addEmpty
      return (key, value) :: (← flowPairs fuel false)
end

/-! ## Documents -/

/-- What a document begins with, if it is not its root. -/
def isOpening : Token → Bool
  | .version _ | .handle .. | .reserved | .documentStart => true
  | _ => false

/-- Takes the directives in front of a document and the mark behind them. The version may be given
once, and so may a handle. -/
def directives :
    (fuel : Nat) → (hasVersion : Bool) → (declared : List (String × String)) → Read Unit
  | 0, _, _ => refuse
  | fuel + 1, hasVersion, declared => do
    match ← peek with
    | some (.version isFirst) =>
      drop
      if hasVersion || !isFirst then refuse else directives fuel true declared
    | some (.handle name beginning) =>
      drop
      if declared.any (·.1 = name) then refuse
      else directives fuel hasVersion ((name, beginning) :: declared)
    | some .reserved =>
      drop
      directives fuel hasVersion declared
    | some .documentStart =>
      drop
      modify fun r => { r with handles := declared ++ commonHandles }
    | _ => refuse

/-- The root of the document that starts here. -/
def root (fuel : Nat) : Read NodeId := do
  if (← peek).any isOpening then
    directives fuel false []
    match ← peek with
    | none => addEmpty
    | some t => if t = .documentEnd || isOpening t then addEmpty else node fuel true false
  else node fuel true false

/-- Takes the marks that end a document. -/
def documentEnds : (fuel : Nat) → Read Unit
  | 0 => refuse
  | fuel + 1 => do if ← sees [.documentEnd] then drop; documentEnds fuel

/-- The root of the only document. Another one is refused, after its directives. -/
def document (fuel : Nat) : Read NodeId := do
  if (← peek).isNone then return ← addEmpty
  let id ← root fuel
  documentEnds fuel
  if (← peek).isSome then
    directives fuel false []
    refuse
  return id

end Reading

/-- How deep the nodes of a document may be nested. -/
def nestingLimit : Nat := 490

/-- The nodes of the only document in a text, and its root; an empty text has an empty root. -/
def Graph.ofIntake (intake : Intake) : Outcome (NodeId × Graph) :=
  let (tokens, stop) := tokens intake
  let start : Reading := { tokens, stop, room := nestingLimit }
  ((Reading.document (4 * tokens.length + 4)).run start).map fun (id, r) => (id, r.graph)

end LedStudio.Yaml
