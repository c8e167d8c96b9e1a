import GameEffects.Value.Basic
import GameEffects.Yaml.Node

/-!
# Documents

A document is a node together with what the nodes of its text stand for. Its value is the unfolding
of that node. A reader finds the document in the bytes of a file, or says why there is none.
-/

namespace GameEffects.Yaml

/-- What a node stands for. -/
inductive Item
  /-- A value without parts. -/
  | scalar (s : Scalar)
  /-- A list of nodes. -/
  | list (items : List NodeId)
  /-- A list of pairs of nodes. -/
  | pairs (pairs : List (NodeId × NodeId))
  /-- A set of scalars. -/
  | set (items : List Scalar)
  /-- A mapping from scalars to nodes. -/
  | map (entries : Entries Scalar NodeId)

/-- A document, or a part of one. -/
structure Document where
  /-- What the nodes stand for. -/
  items : Array (Option Item)
  /-- The node that the document is. -/
  root : NodeId

namespace Document

/-- What a node of a document stands for. -/
def itemAt (d : Document) (id : NodeId) : Item :=
  ((d.items[id]?).join).getD (.scalar .null)

/-- What a document stands for. -/
def item (d : Document) : Item :=
  d.itemAt d.root

/-- The part of a document that is at a node. -/
def part (d : Document) (id : NodeId) : Document :=
  { d with root := id }

/-- Whether a document is null. -/
def isNull (d : Document) : Bool :=
  match d.item with
  | .scalar .null => true
  | _ => false

/-- Whether a document counts as nothing: as a scalar does, or without items. -/
def isVoid (d : Document) : Bool :=
  match d.item with
  | .scalar s => s.isVoid
  | .list items => items.isEmpty
  | .pairs pairs => pairs.isEmpty
  | .set items => items.isEmpty
  | .map entries => entries.isEmpty

/-- The entries of a document that is a mapping. -/
def entries? (d : Document) : Option (Entries Scalar Document) :=
  match d.item with
  | .map entries => some (entries.map fun entry => (entry.1, d.part entry.2))
  | _ => none

/-- The value of a node inside of the nodes `path`. There are `fuel` nodes that are not on the
path. -/
def unfold (d : Document) (fuel : Nat) (path : List NodeId) (id : NodeId) : Value :=
  let inside := path.contains id
  match d.itemAt id, fuel with
  | .scalar s, _ => .scalar s
  | .set items, _ => .set items
  | .map entries, fuel + 1 =>
    if inside then .mapLoop
    else .map (entries.map fun entry => (entry.1, d.unfold fuel (id :: path) entry.2))
  | .map _, 0 => .mapLoop
  | .list items, fuel + 1 =>
    if inside then .listLoop else .list (items.map (d.unfold fuel (id :: path)))
  | .pairs pairs, fuel + 1 =>
    let inner := d.unfold fuel (id :: path)
    if inside then .listLoop
    else .list (pairs.map fun pair => .tuple [inner pair.1, inner pair.2])
  | _, 0 => .listLoop

/-- The value of a document. -/
def value (d : Document) : Value :=
  d.unfold d.items.size [] d.root

end Document

/-- Why a reader finds no document. -/
inductive ReadFault
  /-- The bytes are no well-formed document. -/
  | malformed (message : Text)
  /-- Reading stops with a fault of another sort. -/
  | stopped (sort message : Text)
  deriving DecidableEq, Repr

/-- The message of a read fault. -/
def ReadFault.message : ReadFault → Text
  | .malformed message => message
  | .stopped _ message => message

/-- What finds the document in the bytes of a file. Bytes without a document have the null
document. -/
abbrev Reader :=
  List UInt8 → Except ReadFault Document

end GameEffects.Yaml
