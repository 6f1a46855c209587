import Logline.Logger.Config

/-! # Logger hierarchies

The loggers of an engine form a tree whose root is made with it. Loggers are only added, and each
keeps its place: its name, and the loggers above it. A name is used once among siblings.
-/

namespace Logline

structure NodeId where
  index : Nat
  deriving DecidableEq, Repr, Inhabited

def NodeId.root : NodeId := ⟨0⟩

structure Node where
  name : String
  /-- The loggers above this one, the root first. -/
  ancestors : List NodeId
  config : NodeConfig
  deriving Inhabited

namespace Node

def parent? (n : Node) : Option NodeId := n.ancestors.getLast?

def configure (n : Node) (f : NodeConfig → NodeConfig) : Node := { n with config := f n.config }

end Node

structure Hierarchy where
  root : Node
  others : List Node
  deriving Inhabited

namespace Hierarchy

def ofRoot (name : String) (config : NodeConfig) : Hierarchy := ⟨⟨name, [], config⟩, []⟩

def nodes (h : Hierarchy) : List Node := h.root :: h.others

/-- The logger of an identity; the root stands in for one that was never given. -/
def node (h : Hierarchy) (id : NodeId) : Node := h.nodes.getD id.index h.root

def entries (h : Hierarchy) : List (NodeId × Node) :=
  h.nodes.zipIdx.map fun (node, index) => (⟨index⟩, node)

def children (h : Hierarchy) (id : NodeId) : List (NodeId × Node) :=
  h.entries.filter fun (_, node) => node.parent? == some id

def child? (h : Hierarchy) (id : NodeId) (name : String) : Option NodeId :=
  ((h.children id).find? fun (_, node) => node.name == name).map (·.1)

def childNames (h : Hierarchy) (id : NodeId) : List String :=
  ((h.children id).map (·.2.name)).mergeSort fun a b => decide (a ≤ b)

def subtree (h : Hierarchy) (id : NodeId) : List Node :=
  h.node id :: (h.nodes.filter fun node => node.ancestors.contains id)

def nextId (h : Hierarchy) : NodeId := ⟨h.nodes.length⟩

def add (h : Hierarchy) (parent : NodeId) (name : String) (config : NodeConfig) : Hierarchy :=
  { h with others := h.others ++ [⟨name, (h.node parent).ancestors ++ [parent], config⟩] }

def configure (h : Hierarchy) (id : NodeId) (f : NodeConfig → NodeConfig) : Hierarchy :=
  match id.index with
  | 0 => { h with root := h.root.configure f }
  | i + 1 => { h with others := h.others.modify i (·.configure f) }

end Hierarchy

end Logline
