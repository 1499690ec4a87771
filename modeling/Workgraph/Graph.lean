import Workgraph.Graph.NodeBody
import Workgraph.Graph.Port
import Workgraph.Text.Blank

/-!
# Graphs

A graph is a list of nodes and a list of edges as a document or a host gives them. Nothing is
assumed about it: ids may repeat, edges may lead nowhere, the type of a node may differ from the
type of its body. `findNode?` takes the first node with an id.
-/

namespace Workgraph

structure Edge where
  id : String
  source : String
  target : String
  /-- The output it leaves through; none means the default output. -/
  sourcePort : Option String := none
  /-- The input it enters through; none means the default input. -/
  targetPort : Option String := none
  deriving DecidableEq, Inhabited

/-- What every node carries: its names, whether it is skipped, and its settings. -/
structure NodeData where
  title : String
  /-- Given by the author; shown instead of the title unless blank. -/
  label : String := ""
  /-- A muted node is passed over, a muted provider serves nothing. -/
  muted : Bool := false
  body : NodeBody
  deriving DecidableEq, Inhabited

structure Node where
  id : String
  /-- The type that decides ports and scheduling; meant to be the type of the body. -/
  type : NodeType
  data : NodeData
  deriving DecidableEq, Inhabited

/-- The name under which a node is shown. -/
def Node.displayName (n : Node) : String :=
  if Text.isAllBlank n.data.label then n.data.title else n.data.label

structure Graph where
  nodes : List Node := []
  edges : List Edge := []
  deriving DecidableEq, Inhabited

namespace Graph

/-- The first node with an id. -/
def findNode? (g : Graph) (id : String) : Option Node := g.nodes.find? fun n => n.id = id

/-- The last node with an id. -/
def findLastNode? (g : Graph) (id : String) : Option Node :=
  g.nodes.reverse.find? fun n => n.id = id

/-- Whether some node has an id. -/
def hasNode (g : Graph) (id : String) : Bool := g.nodes.any fun n => n.id = id

/-- The first start node. -/
def startNode? (g : Graph) : Option Node := g.nodes.find? fun n => n.type = .start

/-- The edges into a node. -/
def incoming (g : Graph) (id : String) : List Edge := g.edges.filter fun e => e.target = id

/-- The edges out of a node. -/
def outgoing (g : Graph) (id : String) : List Edge := g.edges.filter fun e => e.source = id

end Graph

end Workgraph
