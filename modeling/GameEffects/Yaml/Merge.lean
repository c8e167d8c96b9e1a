import GameEffects.Yaml.Fault
import GameEffects.Yaml.Node

/-!
# Merging

A mapping takes the entries of the mappings that its merging keys have as values. They come before
its own entries. Merging changes the mapping for good, and so every place that refers to it.
-/

namespace GameEffects.Yaml

namespace Graph

/-- Whether the key of an entry is one whose value is merged. -/
def isMerging (g : Graph) (entry : NodeId × NodeId) : Bool :=
  g.tag entry.1 == .merge

/-- The number of all entries whose values are to be merged. -/
def mergeCount (g : Graph) : Nat :=
  (g.nodes.toList.flatMap Node.entries).countP g.isMerging

/-- Puts merged entries before those of a mapping, in which an equals sign as a key becomes a
text. -/
def putMerged (g : Graph) (id : NodeId) (merged : List (NodeId × NodeId)) : Graph :=
  let own := g.entries id
  let g := own.foldl
    (fun g entry => if g.tag entry.1 = .value then g.setTag entry.1 .str else g) g
  g.setContent id (.map (merged ++ own))

/-- The mappings that the value of a merging key gives: itself, or the items of a list. -/
def sources (g : Graph) (value : NodeId) : Except TextFault (List NodeId) :=
  match g.content value with
  | .map _ => .ok [value]
  | .list items => .ok items
  | .text _ => malformed .merge

mutual

/-- Merges what the mapping with number `id` asks for, after the entries that are `merged` already.
Each round takes a merging entry away, so that `fuel` rounds are enough if there are no more such
entries. -/
def mergeWith (fuel : Nat) (g : Graph) (id : NodeId) (merged : List (NodeId × NodeId)) :
    Except TextFault Graph :=
  match (g.entries id).find? g.isMerging, fuel with
  | some (_, value), fuel + 1 => do
    let rest := (g.entries id).eraseP g.isMerging
    let (more, g) ← entriesOf fuel (g.setContent id (.map rest)) (← g.sources value)
    mergeWith fuel g id (merged ++ more)
  | _, _ => .ok (g.putMerged id merged)
termination_by (fuel, 0)

/-- The entries of several mappings, of which the last comes first. -/
def entriesOf (fuel : Nat) (g : Graph) (ids : List NodeId) :
    Except TextFault (List (NodeId × NodeId) × Graph) :=
  match ids with
  | [] => .ok ([], g)
  | id :: rest => do
    match g.content id with
    | .map _ =>
      let g ← mergeWith fuel g id []
      let (later, g') ← entriesOf fuel g rest
      return (later ++ g.entries id, g')
    | _ => malformed .merge
termination_by (fuel, ids.length + 1)

end

/-- Merges all that the mapping with number `id` asks for. -/
def merge (g : Graph) (id : NodeId) : Except TextFault Graph :=
  mergeWith (g.mergeCount) g id []

end Graph

end GameEffects.Yaml
