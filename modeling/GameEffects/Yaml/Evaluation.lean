import GameEffects.Yaml.Base64
import GameEffects.Yaml.Document
import GameEffects.Yaml.Merge
import GameEffects.Yaml.Number

/-!
# Evaluation

What the nodes of a document stand for. Every node is evaluated once, when it is first visited.
Scalars are evaluated at once; lists, sets and mappings are filled in the order of their visits, so
that they may contain each other.
-/

namespace GameEffects.Yaml

/-- What keeps a document from having a value. -/
inductive DocumentFault
  /-- It cannot be read. -/
  | text (fault : TextFault)
  /-- A text does not have a value of its type. -/
  | value (fault : ValueFault)
  /-- A mapping stands for a text that is that of the mapping itself. -/
  | endless
  deriving DecidableEq, Repr

/-- The fault of a malformed node. -/
def malformedNode {α : Type} (cause : Malformation) : Except DocumentFault α :=
  .error (.text (.malformed cause))

/-- The text of a node where a text is expected: its own, or of a mapping the one that its equals
sign stands for. No more than `fuel` mappings can stand for each other. -/
def Graph.textOf (g : Graph) (fuel : Nat) (id : NodeId) : Except DocumentFault Text :=
  match g.content id with
  | .text s => .ok s
  | .list _ => malformedNode .type
  | .map entries =>
    match entries.find? fun entry => g.tag entry.1 == .value, fuel with
    | none, _ => malformedNode .type
    | some _, 0 => .error .endless
    | some (_, value), fuel + 1 => g.textOf fuel value

/-- The value of a text of a given type. The payload is for a floating-point value that is no
number. -/
def scalarOf (payload : Nat) (tag : Tag) (s : Text) : Except DocumentFault Scalar :=
  match tag with
  | .null => .ok .null
  | .bool => ((boolValue s).mapError .value).map .bool
  | .int => ((intValue s).mapError .value).map .int
  | .float => ((floatValue payload s).mapError .value).map .real
  | .str => .ok (.text s)
  | .timestamp => ((timestampValue s).mapError (.value ∘ .timestamp)).map .datum
  | .binary =>
    match Base64.bytes? s with
    | some bytes => .ok (.datum (.bytes bytes))
    | none => malformedNode .bytes
  | _ => malformedNode .type

/-- The nodes of a document while they are evaluated. -/
structure Evaluation where
  /-- The nodes. -/
  graph : Graph
  /-- What the nodes that have been visited stand for. -/
  items : Array (Option Item)
  /-- The lists, sets and mappings that have been visited and are not filled, the next one first. -/
  waiting : List NodeId := []

namespace Evaluation

/-- Sets what a node stands for. -/
def setItem (e : Evaluation) (id : NodeId) (item : Item) : Evaluation :=
  { e with items := e.items.setIfInBounds id (some item) }

/-- Lets a list, set or mapping wait for its items. -/
def delay (e : Evaluation) (id : NodeId) (item : Item) : Evaluation :=
  { e.setItem id item with waiting := e.waiting ++ [id] }

/-- What a node stands for, if it has been visited. -/
def item? (e : Evaluation) (id : NodeId) : Option Item :=
  (e.items[id]?).join

/-- The value of a node that is a text or stands for one. Every node has its own payload. No other
text may stand for a date or a point in time. -/
def scalarAt (e : Evaluation) (id : NodeId) : Except DocumentFault Scalar := do
  let s ← e.graph.textOf e.graph.nodes.size id
  match e.graph.tag id, e.graph.content id with
  | .timestamp, .map _ => .error (.value (.timestamp .noText))
  | tag, _ => scalarOf (id + 1) tag s

/-- Visits a node. -/
def visit (e : Evaluation) (id : NodeId) : Except DocumentFault Evaluation :=
  if (e.item? id).isSome then .ok e
  else
    match e.graph.tag id with
    | .list => .ok (e.delay id (.list []))
    | .entryList => .ok (e.delay id (.pairs []))
    | .set => .ok (e.delay id (.set []))
    | .map => .ok (e.delay id (.map []))
    | .merge | .value | .other _ => malformedNode .type
    | _ => do return e.setItem id (.scalar (← e.scalarAt id))

/-- Visits the items of a list of pairs. Each has to be a mapping of one entry. -/
def visitPairs (e : Evaluation) :
    List NodeId → Except DocumentFault (List (NodeId × NodeId) × Evaluation)
  | [] => .ok ([], e)
  | id :: rest =>
    match e.graph.content id with
    | .map [(key, value)] => do
      let e ← (← e.visit key).visit value
      let (pairs, e) ← e.visitPairs rest
      return ((key, value) :: pairs, e)
    | _ => malformedNode .type

/-- Visits the entries of a mapping after those that have been visited already. Lists, sets and
mappings are no keys. -/
def visitEntries (e : Evaluation) (visited : Entries Scalar NodeId) :
    List (NodeId × NodeId) → Except DocumentFault (Entries Scalar NodeId × Evaluation)
  | [] => .ok (visited, e)
  | (key, value) :: rest => do
    let e ← e.visit key
    match e.item? key with
    | some (.scalar name) =>
      let e ← e.visit value
      e.visitEntries (Entries.put Scalar.key name value visited) rest
    | _ => malformedNode .key

/-- Visits the entries of a mapping after merging. -/
def visitMapping (e : Evaluation) (id : NodeId) :
    Except DocumentFault (Entries Scalar NodeId × Evaluation) := do
  let graph ← (e.graph.merge id).mapError .text
  { e with graph := graph }.visitEntries [] (graph.entries id)

/-- Fills a list, set or mapping. The content has to be that of its type; that of a set is a mapping,
of which the keys count. -/
def fill (e : Evaluation) (id : NodeId) : Except DocumentFault Evaluation :=
  match e.graph.tag id, e.graph.content id with
  | .list, .list items => do
    let e ← items.foldlM visit e
    return e.setItem id (.list items)
  | .entryList, .list items => do
    let (pairs, e) ← e.visitPairs items
    return e.setItem id (.pairs pairs)
  | .set, .map _ => do
    let (entries, e) ← e.visitMapping id
    return e.setItem id (.set (entries.map Prod.fst))
  | .map, .map _ => do
    let (entries, e) ← e.visitMapping id
    return e.setItem id (.map entries)
  | _, _ => malformedNode .type

/-- Fills what is waiting, up to `fuel` lists, sets and mappings. -/
def fillWaiting (fuel : Nat) (e : Evaluation) : Except DocumentFault Evaluation :=
  match fuel, e.waiting with
  | fuel + 1, id :: waiting => do
    let e ← { e with waiting := waiting }.fill id
    fillWaiting fuel e
  | _, _ => .ok e

/-- Evaluates the nodes that a node needs. -/
def ofNode (graph : Graph) (id : NodeId) : Except DocumentFault Evaluation := do
  let start : Evaluation := { graph := graph, items := Array.replicate graph.nodes.size none }
  (← start.visit id).fillWaiting graph.nodes.size

end Evaluation

end GameEffects.Yaml
