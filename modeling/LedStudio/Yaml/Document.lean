import LedStudio.Yaml.Content
import LedStudio.Yaml.MemberOrder
import LedStudio.Yaml.Reading

/-!
# Documents

The value that a document holds. A node that stands inside of itself is shown as such where it comes
again. The root of a document and its sections are taken apart when they are used, so they do not
count as what a value stands in.
-/

namespace LedStudio.Yaml

/-! ## Values -/

/-- A value as it is taken out of a document. As a value, every "not a number" is alike. -/
def leafOf : Value → Value
  | .loneNan => .float .nan
  | v => v

/-- The value of a node and whether it shows a node that stands inside of itself. The values of the
others are kept, as they are the same wherever they stand. `free` is the number of levels that do
not count as surroundings, `around` holds the nodes that do. -/
def unroll (contents : Array (Option Content)) : (fuel free : Nat) → (around : List NodeId) →
    NodeId → StateM (Array (Option Value)) (Value × Bool)
  | 0, _, _, _ => return (.null, false)
  | fuel + 1, free, around, id => do
    let inner (id' : NodeId) : StateM (Array (Option Value)) (Value × Bool) :=
      unroll contents fuel (free - 1) (if free = 0 then id :: around else around) id'
    let values ← get
    let known := if free = 0 then (values[id]?).join else none
    if around.contains id then
      return (.again (match (contents[id]?).join with
        | some (.entries _) => true
        | _ => false), true)
    if let some v := known then return (v, false)
    let (v, again) ←
      match (contents[id]?).join with
      | none => pure (Value.null, false)
      | some (.leaf v) => pure (leafOf v, false)
      | some (.members es) => pure (Value.set (memberOrder (es.map (·.key))), false)
      | some (.items ids) => do
        let vs ← ids.mapM inner
        pure (Value.list (vs.map (·.1)), vs.any (·.2))
      | some (.rows pairs) => do
        let vs ← pairs.mapM fun (key, value) => return (← inner key, ← inner value)
        pure (Value.list (vs.map fun (k, v) => .tuple [k.1, v.1]), vs.any fun (k, v) => k.2 || v.2)
      | some (.entries es) => do
        let vs ← es.mapM fun e => return (e.key, ← inner e.value)
        pure (Value.map (vs.map fun (key, v) => (key, v.1)), vs.any fun (_, v) => v.2)
    if free = 0 && !again then modify fun values => values.setIfInBounds id (some v)
    return (v, again)

/-- How many levels of a document are taken apart: the root and its sections. -/
def freeLevels : Nat := 2

/-- The value of the document in a file, as far as it can be read. -/
def load (intake : Intake) : Outcome Value := do
  let (root, graph) ← Graph.ofIntake intake
  let contents ← graph.contents root
  let fuel := graph.size + freeLevels + 1
  return ((unroll contents fuel freeLevels [] root).run (Array.replicate graph.size none)).1.1

/-- The value of the document in a file of bytes. -/
def loadBytes (bytes : List UInt8) : Outcome Value := load (Intake.ofBytes bytes)

end LedStudio.Yaml
