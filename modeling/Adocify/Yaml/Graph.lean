import Adocify.Yaml.Tag

/-! The nodes of a YAML text. A node refers to other nodes by their places, so that a name can bring
one node into several places, even into itself. -/

namespace Adocify.Yaml

/-- The place of a node in its graph. -/
abbrev NodeId := Nat

inductive Content where
  | scalar (text : Text)
  | sequence (items : List NodeId)
  | mapping (entries : List (NodeId × NodeId))
  deriving Repr, DecidableEq

structure Node where
  tag : Tag
  content : Content
  deriving Repr, DecidableEq

abbrev Graph := Array Node

namespace Graph

/-- The graph with one more node, and its place. -/
def add (graph : Graph) (node : Node) : NodeId × Graph := (graph.size, graph.push node)

def setContent (graph : Graph) (id : NodeId) (content : Content) : Graph :=
  graph.modify id fun node => { node with content }

def setTag (graph : Graph) (id : NodeId) (tag : Tag) : Graph :=
  graph.modify id fun node => { node with tag }

def tagOf? (graph : Graph) (id : NodeId) : Option Tag := graph[id]?.map (·.tag)

/-- The entries of a mapping; those of another node are none. -/
def entries? (graph : Graph) (id : NodeId) : Option (List (NodeId × NodeId)) :=
  match graph[id]? with
  | some ⟨_, .mapping entries⟩ => some entries
  | _ => none

/-- The nodes that stand under a merge key: a sequence brings in its items. -/
def sources? (graph : Graph) (id : NodeId) : Option (List NodeId) :=
  match graph[id]? with
  | some ⟨_, .mapping _⟩ => some [id]
  | some ⟨_, .sequence items⟩ => some items
  | _ => none

/-- How many entries the mappings have. -/
def entryCount (graph : Graph) : Nat :=
  graph.foldl (fun count node => match node.content with
    | .mapping entries => count + entries.length
    | _ => count) 0

end Graph

end Adocify.Yaml
