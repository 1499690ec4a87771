import Workgraph.Graph.Route

/-!
# Wiring of values and tools

Edges that do not carry the control flow are looked up from their target.

* `Graph.edgeInto?` is the edge that a data input reads: among the edges that name the port, or
  name none when the port is the canonical input, the one with the least id;
* `Graph.providerEdges` are the edges that name the tools port of a consumer, by source id and then
  by edge id.
-/

namespace Workgraph

/-- Whether an edge names a port, the canonical input being named by no name. -/
def Edge.names (port : String) (e : Edge) : Bool :=
  match e.targetPort with
  | some p => p = port
  | none => port = PortId.input

namespace Graph

/-- The edge that an input of a node reads. -/
def edgeInto? (g : Graph) (id port : String) : Option Edge :=
  (((g.incoming id).filter (Edge.names port)).mergeSort fun a b => a.id ≤ b.id).head?

/-- Whether an edge comes before or with another among the edges into a tools port. -/
def providerBefore (a b : Edge) : Bool :=
  if a.source ≠ b.source then a.source < b.source else a.id ≤ b.id

/-- The edges into the tools port of a consumer. -/
def providerEdges (g : Graph) (consumer : String) : List Edge :=
  ((g.incoming consumer).filter fun e => e.targetPort = some PortId.tools).mergeSort providerBefore

end Graph

end Workgraph
