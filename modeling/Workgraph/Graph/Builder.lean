import Workgraph.Graph.Definition

/-!
# Building graphs

A graph is built by calls, one after the other. A connection gets an id of its own, `edge-1`,
`edge-2` and so on, from a counter of connections; an edge given whole keeps its id and does not
count.
-/

namespace Workgraph

/-- A graph under construction. -/
structure GraphBuilder where
  graph : Graph := {}
  /-- How many connections were made. -/
  connections : Nat := 0
  deriving Inhabited

namespace GraphBuilder

/-- The id of the connection with a number. -/
def edgeId (n : Nat) : String := "edge-" ++ toString n

def addNode (b : GraphBuilder) (n : Node) : GraphBuilder :=
  { b with graph := { b.graph with nodes := b.graph.nodes ++ [n] } }

def addEdge (b : GraphBuilder) (e : Edge) : GraphBuilder :=
  { b with graph := { b.graph with edges := b.graph.edges ++ [e] } }

/-- Adds a node with a body, of the body's type. -/
def add (b : GraphBuilder) (id : String) (body : NodeBody) : GraphBuilder :=
  b.addNode { id, type := body.nodeType, data := .ofBody body }

/-- Adds a node of a type with its initial body. -/
def addInitial (b : GraphBuilder) (id : String) (type : NodeType) : GraphBuilder :=
  b.addNode { id, type, data := .initial type }

/-- Changes the data of the node added last, if there is one. -/
def changeLast (b : GraphBuilder) (change : NodeData → NodeData) : GraphBuilder :=
  match b.graph.nodes.getLast? with
  | none => b
  | some n =>
    { b with graph := { b.graph with
        nodes := b.graph.nodes.dropLast ++ [{ n with data := change n.data }] } }

/-- Sets the label of the node added last. -/
def withLabel (b : GraphBuilder) (label : String) : GraphBuilder :=
  b.changeLast fun d => { d with label }

/-- Mutes the node added last. -/
def muted (b : GraphBuilder) : GraphBuilder := b.changeLast fun d => { d with muted := true }

/-- Adds a connection under the next generated id. -/
def link (b : GraphBuilder) (source target : String) (sourcePort targetPort : Option String) :
    GraphBuilder :=
  let n := b.connections + 1
  { b with connections := n }.addEdge { id := edgeId n, source, target, sourcePort, targetPort }

/-- Connects two named ports. -/
def connect (b : GraphBuilder) (source sourcePort target targetPort : String) : GraphBuilder :=
  b.link source target (some sourcePort) (some targetPort)

/-- Connects two nodes by their default ports. -/
def connectDefault (b : GraphBuilder) (source target : String) : GraphBuilder :=
  b.link source target none none

/-- Adds an edge given whole. -/
def edge (b : GraphBuilder) (e : Edge) : GraphBuilder := b.addEdge e

end GraphBuilder

end Workgraph
