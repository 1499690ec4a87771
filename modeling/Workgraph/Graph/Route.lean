import Workgraph.Graph.Definition

/-!
# Routes

The order in which the edges out of a node are followed, for a run, a plan and a check alike: by the
position of their port among the outputs, edges without a known port last, then by target id, then
by edge id. Edges that agree in all three keep the order of the graph.

* `Graph.routes` lists the edges out of a node in that order, each with its port;
* `Edge.landing?` is the input that an edge enters, `Edge.isFlow` whether the chain of control goes
  on through it.
-/

namespace Workgraph

/-- An edge out of a node, with the output it leaves through if that is known. -/
structure Route where
  edge : Edge
  port : Option (Nat × Port)
  deriving DecidableEq

namespace Route

/-- The position of the port among the outputs. -/
def portIndex (r : Route) : Option Nat := r.port.map (·.1)

def portId (r : Route) : Option String := r.port.map (·.2.id)

/-- Whether a position comes before or with another; no position comes after all. -/
def indexLe : Option Nat → Option Nat → Bool
  | some i, some j => i ≤ j
  | some _, none => true
  | none, some _ => false
  | none, none => true

/-- Whether a route is followed before or with another. -/
def before (a b : Route) : Bool :=
  if a.portIndex ≠ b.portIndex then indexLe a.portIndex b.portIndex
  else if a.edge.target ≠ b.edge.target then a.edge.target < b.edge.target
  else a.edge.id ≤ b.edge.id

end Route

namespace Graph

/-- The route of an edge out of a node. -/
def routeOf (n : Node) (e : Edge) : Route :=
  { edge := e, port := findPort n.outputPorts e.sourcePort PortId.output }

/-- The edges out of a node, in the order in which they are followed. -/
def routes (g : Graph) (n : Node) : List Route :=
  ((g.outgoing n.id).map (routeOf n)).mergeSort Route.before

end Graph

/-- The input of a node that an edge enters. -/
def Edge.landing? (e : Edge) (target : Node) : Option Port :=
  (findPort target.inputPorts e.targetPort PortId.input).map (·.2)

/-- Whether the chain of control goes on through an edge into a node. -/
def Edge.isFlow (e : Edge) (target : Node) : Bool :=
  match e.landing? target with
  | some p => p.kind = .flow
  | none => false

end Workgraph
