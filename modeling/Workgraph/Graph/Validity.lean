import Workgraph.Graph.Issue
import Workgraph.Graph.Traversal
import Workgraph.Graph.Wiring

/-!
# Checking graphs

`Graph.issues` lists everything that is wrong with a graph, in the order of the checks: number of
instances, node ids and bodies, edges and their ports, tool providers, and what a traversal from
the start node finds. No check stops another.
-/

namespace Workgraph

namespace Graph

/-! ## 1. Instances -/

/-- The nodes of a type. -/
def nodesOfType (g : Graph) (t : NodeType) : List Node := g.nodes.filter fun n => n.type = t

/-- The issues of one bounded definition. -/
def instanceIssuesOf (g : Graph) (d : Definition) (bounds : InstanceBounds) : List Issue :=
  let found := g.nodesOfType d.type
  let count := toString found.length
  let missing : List Issue :=
    if found.length < bounds.min then
      [{ level := .error, code := bounds.missingCode
         message := "Graph needs at least " ++ toString bounds.min ++ " " ++ d.label
           ++ " node(s), found " ++ count }]
    else []
  let excess : List Issue := match bounds.max with
    | none => []
    | some max => (found.drop max).map fun n =>
      { level := .error, code := bounds.excessCode
        message := "Graph allows at most " ++ toString max ++ " " ++ d.label
          ++ " node(s), found " ++ count
        nodeId := some n.id }
  missing ++ excess

def instanceIssues (g : Graph) : List Issue :=
  Definition.bounded.flatMap fun d => match d.instances with
    | some bounds => g.instanceIssuesOf d bounds
    | none => []

/-! ## 2. Nodes -/

/-- The issues of a node that follows nodes with some ids. -/
def nodeIssuesOf (earlier : List String) (n : Node) : List Issue :=
  (if n.id ∈ earlier then
    [{ level := .error, code := "duplicate_node_id"
       message := "Node id '" ++ n.id ++ "' is used more than once", nodeId := some n.id }]
  else []) ++
  (if n.data.body.nodeType ≠ n.type then
    [{ level := .error, code := "node_data_mismatch"
       message := "Node '" ++ n.id ++ "' is a " ++ n.type.name ++ " node but carries "
         ++ n.data.body.nodeType.name ++ " data"
       nodeId := some n.id }]
  else [])

def nodeIssuesAfter (earlier : List String) : List Node → List Issue
  | [] => []
  | n :: ns => nodeIssuesOf earlier n ++ nodeIssuesAfter (n.id :: earlier) ns

def nodeIssues (g : Graph) : List Issue := nodeIssuesAfter [] g.nodes

/-! ## 3. Edges -/

/-- The two ends of an edge. -/
inductive Side where
  | source
  | target

def Side.name : Side → String
  | .source => "source"
  | .target => "target"

/-- The issue of an edge end that refers to no port. -/
def portIssue (e : Edge) (n : Node) (ports : List Port) (explicit : Option String) (side : Side) :
    Issue :=
  let of (level : IssueLevel) (stem message : String) : Issue :=
    { level, code := stem ++ "_" ++ side.name ++ "_port"
      message := "Edge '" ++ e.id ++ "' " ++ message
      nodeId := some n.id, edgeId := some e.id }
  match explicit, ports with
  | some id, _ => of .error "unknown" ("uses " ++ side.name ++ " port '" ++ id ++ "' which node '"
      ++ n.id ++ "' does not have")
  | none, [] => of .error "unknown" ("attaches to node '" ++ n.id ++ "' which has no " ++ side.name
      ++ " ports")
  | none, _ => of .warning "ambiguous" ("does not name a " ++ side.name ++ " port and node '"
      ++ n.id ++ "' has several")

/-- The issues of the ports of an edge between two nodes. -/
def portIssues (e : Edge) (source target : Node) : List Issue :=
  let out := findPort source.outputPorts e.sourcePort PortId.output
  let inp := findPort target.inputPorts e.targetPort PortId.input
  (if out.isNone then [portIssue e source source.outputPorts e.sourcePort .source] else []) ++
  (if inp.isNone then [portIssue e target target.inputPorts e.targetPort .target] else []) ++
  (match out, inp with
    | some (_, o), some (_, i) =>
      if o.kind.feeds i.kind then []
      else [{ level := .error, code := "incompatible_ports"
              message := "Edge '" ++ e.id ++ "' connects " ++ o.kind.title ++ " port '" ++ o.id
                ++ "' to " ++ i.kind.title ++ " port '" ++ i.id ++ "'"
              edgeId := some e.id }]
    | _, _ => [])

/-- The issues of one edge. Its ends are the last nodes with their ids. -/
def edgeIssuesOf (g : Graph) (e : Edge) : List Issue :=
  let source := g.findLastNode? e.source
  let target := g.findLastNode? e.target
  (if source.isNone then
    [{ level := .error, code := "dangling_edge_source"
       message := "Edge '" ++ e.id ++ "' starts at unknown node '" ++ e.source ++ "'"
       edgeId := some e.id }]
  else []) ++
  (if target.isNone then
    [{ level := .error, code := "dangling_edge_target"
       message := "Edge '" ++ e.id ++ "' ends at unknown node '" ++ e.target ++ "'"
       edgeId := some e.id }]
  else []) ++
  (match source, target with
    | some s, some t => portIssues e s t
    | _, _ => [])

def edgeIssues (g : Graph) : List Issue := g.edges.flatMap g.edgeIssuesOf

/-! ## 4. Providers -/

/-- The types of the providers of a consumer that are not muted and may serve it only once. -/
def singleProviders (g : Graph) (consumer : String) : List NodeType :=
  (g.providerEdges consumer).filterMap fun e => match g.findNode? e.source with
    | some p =>
      if p.data.muted || !(definitionOf p.type).singlePerConsumer then none else some p.type
    | none => none

/-- The types that occur at least twice, each once, in the order of their second occurrence. -/
def secondOccurrences (earlier : List NodeType) : List NodeType → List NodeType
  | [] => []
  | t :: ts =>
    if earlier.count t = 1 then t :: secondOccurrences (t :: earlier) ts
    else secondOccurrences (t :: earlier) ts

def providerIssues (g : Graph) : List Issue :=
  (g.nodesOfType .completion).flatMap fun consumer =>
    (secondOccurrences [] (g.singleProviders consumer.id)).map fun t =>
      { level := .error, code := "duplicate_provider"
        message := "Node '" ++ consumer.id ++ "' has more than one " ++ (definitionOf t).label
          ++ " provider"
        nodeId := some consumer.id }

/-! ## 5. Reachability and cycles -/

/-- The issue of an edge that closes a cycle. -/
def cycleIssue (e : Edge) : Issue :=
  { level := .error, code := "cycle_detected"
    message := "Edge '" ++ e.id ++ "' from '" ++ e.source ++ "' closes a cycle back to '"
      ++ e.target ++ "'"
    nodeId := some e.target, edgeId := some e.id }

/-- The issues found by a traversal from a start node. -/
def traversalIssues (g : Graph) (start : Node) : List Issue :=
  let t := g.traversal start
  let reached (n : Node) : Bool := n.id ∈ t.entered
  (if g.nodes.any fun n => n.type = .finish && reached n then []
  else
    [{ level := .error, code := "missing_reachable_end"
       message := "No End node is reachable from Start", nodeId := some start.id }]) ++
  t.closing.reverse.map cycleIssue ++
  (g.nodes.filter fun n => !n.type.isPure && !n.type.isToolProvider && !reached n).map fun n =>
    { level := .warning, code := "unreachable_node"
      message := "Node '" ++ n.id ++ "' is not reachable from Start", nodeId := some n.id }

/-! ## 6. All checks -/

/-- Everything that is wrong with a graph. -/
def issues (g : Graph) : List Issue :=
  g.instanceIssues ++ g.nodeIssues ++ g.edgeIssues ++ g.providerIssues ++
    (match g.startNode? with
      | some start => g.traversalIssues start
      | none => [])

end Graph

end Workgraph
