import LedStudio.Yaml.Graph

/-!
# Merge keys

The value of a merge key is a mapping, or a sequence of mappings, and lends its pairs to the mapping
that holds the key, where they stand in front. Of a sequence, the last mapping's pairs stand first.
A mapping is settled when its merge keys have been replaced by what they lend; then its default keys
have become texts.
-/

namespace LedStudio.Yaml.Graph

/-- Takes the first pair with a merge key out of a mapping. -/
def takeMerge? (g : Graph) (id : NodeId) : Option (NodeId × Graph) :=
  let pairs := g.pairs id
  let before := pairs.takeWhile fun (key, _) => g.tag key ≠ .merge
  match pairs.drop before.length with
  | [] => none
  | (_, value) :: after => some (value, g.setBody id (.mapping (before ++ after)))

/-- Makes texts of the default keys among pairs. -/
def retagKeys (g : Graph) (pairs : List (NodeId × NodeId)) : Graph :=
  pairs.foldl (fun g (key, _) => if g.tag key = .default then g.setTag key .text else g) g

/-- Puts what was lent in front of the pairs of a mapping. -/
def lend (g : Graph) (id : NodeId) (lent : List (NodeId × NodeId)) : Graph :=
  let own := g.pairs id
  (g.retagKeys own).setBody id (.mapping (lent ++ own))

/-- The number of pairs with a merge key. -/
def mergeCount (g : Graph) : Nat :=
  g.nodes.foldl (fun n x =>
    match x.body with
    | .mapping pairs => n + (pairs.filter fun (key, _) => g.tag key = .merge).length
    | _ => n) 0

/-- Settles a mapping, after what it has been lent so far. What lends is settled first, unless that
is under way already. Each turn takes a merge key away, so their number is fuel enough; `room` is
how far lending may still lead. -/
def settleAfter : (fuel room : Nat) → NodeId → (lent : List (NodeId × NodeId)) → Graph →
    Outcome Graph
  | 0, _, _, _, _ => malformed
  | _, 0, _, _, _ => .error .nestedTooDeeply
  | fuel + 1, room + 1, id, lent, g =>
    match g.takeMerge? id with
    | none => .ok (g.lend id lent)
    | some (value, g) => do
      let lender (g : Graph) (id : NodeId) : Outcome Graph :=
        match g.body id with
        | .mapping _ => settleAfter fuel room id [] g
        | _ => malformed
      match g.body value with
      | .sequence items =>
        let (more, g) ← items.foldlM (fun (more, g) item => do
          let g ← lender g item
          return (g.pairs item ++ more, g)) (([] : List (NodeId × NodeId)), g)
        settleAfter fuel (room + 1) id (lent ++ more) g
      | _ =>
        let g ← lender g value
        settleAfter fuel (room + 1) id (lent ++ g.pairs value) g

/-- Settles a mapping. -/
def settle (g : Graph) (id : NodeId) : Outcome Graph :=
  if (g.takeMerge? id).isNone then .ok (g.lend id [])
  else settleAfter (g.mergeCount + 1) chainLimit id [] g

end LedStudio.Yaml.Graph
