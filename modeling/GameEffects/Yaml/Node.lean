import GameEffects.Yaml.Tag

/-!
# Nodes

The nodes of a document: texts, lists and mappings with their types. Nodes are known by number, so
that an alias stands for the very node that it refers to, which may contain the alias.
-/

namespace GameEffects.Yaml

/-- The number of a node in its graph. -/
abbrev NodeId := Nat

/-- What a node holds. -/
inductive Content
  /-- A text. -/
  | text (text : Text)
  /-- A list of nodes. -/
  | list (items : List NodeId)
  /-- A mapping from nodes to nodes. -/
  | map (entries : List (NodeId × NodeId))

/-- A node. -/
structure Node where
  /-- Its type. -/
  tag : Tag
  /-- What it holds. -/
  content : Content

/-- A node without anything written. -/
def Node.empty : Node :=
  ⟨.null, .text []⟩

/-- The entries of a node that is a mapping; other nodes have none. -/
def Node.entries (node : Node) : List (NodeId × NodeId) :=
  match node.content with
  | .map entries => entries
  | _ => []

/-- The nodes of a document by their numbers. -/
structure Graph where
  /-- The nodes in the order in which they begin. -/
  nodes : Array Node := #[]

namespace Graph

/-- The node with a number. -/
def node (g : Graph) (id : NodeId) : Node :=
  (g.nodes[id]?).getD .empty

/-- The type of a node. -/
def tag (g : Graph) (id : NodeId) : Tag :=
  (g.node id).tag

/-- What a node holds. -/
def content (g : Graph) (id : NodeId) : Content :=
  (g.node id).content

/-- The entries of a node. -/
def entries (g : Graph) (id : NodeId) : List (NodeId × NodeId) :=
  (g.node id).entries

/-- Gives a node another content. -/
def setContent (g : Graph) (id : NodeId) (content : Content) : Graph :=
  { g with nodes := g.nodes.modify id fun node => { node with content := content } }

/-- Gives a node another type. -/
def setTag (g : Graph) (id : NodeId) (tag : Tag) : Graph :=
  { g with nodes := g.nodes.modify id fun node => { node with tag := tag } }

/-- Adds a node. Its number is that of the nodes before it. -/
def add (g : Graph) (node : Node) : NodeId × Graph :=
  (g.nodes.size, { g with nodes := g.nodes.push node })

end Graph

end GameEffects.Yaml
