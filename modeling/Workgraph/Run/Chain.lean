import Workgraph.Graph.Route
import Workgraph.Run.Execute
import Workgraph.Run.Result

/-!
# Running a graph

A run begins at the start node, executes one node after the other, and follows the edges of the
chain of control until a node stops it, no edge goes on, a node fails, the run is cancelled or too
many nodes were executed.

* `Graph.next` is the node that follows, and the output through which it is reached;
* `runFrom` goes on from a node; the nodes that may still be executed are counted down;
* `runGraph` is a whole run. It starts only in a graph with a start node.
-/

namespace Workgraph

/-! ## 1. Following the chain -/

/-- The output that a transition leaves through: the one it chose, or the only one. -/
def Node.exit? (n : Node) (chosen : Option String) : Option String :=
  match chosen, n.outputPorts with
  | some port, _ => some port
  | none, [only] => some only.id
  | none, _ => none

/-- The node at the other end of an edge, if the chain of control goes on there. -/
def Graph.follow? (g : Graph) (e : Edge) : Option Node :=
  (g.findNode? e.target).filter e.isFlow

/-- The node that is reached through an output. -/
def Graph.through? (g : Graph) (n : Node) (port : String) : Option Node :=
  ((g.routes n).filter fun r => r.portId = some port).findSome? fun r => g.follow? r.edge

/-- The node that follows after a transition, and the output that was taken. A transition that stops
leads nowhere. -/
def Graph.next (g : Graph) (n : Node) (t : Transition) : Option Node × Option String :=
  if t.stop then (none, none)
  else match n.exit? t.port with
    | some port => (g.through? n port, some port)
    | none => (none, none)

/-! ## 2. Steps -/

namespace Exec

variable {σ : Type}

/-- The result of a step, or why it failed; the session goes on in both cases. -/
def settle (act : Exec σ α) : Session σ → Except Fault α × Session σ := fun s =>
  match act s with
  | .ok a s => (.ok a, s)
  | .error f s => (.error f, s)

/-- Records the payload as the output of a node. -/
def recordOutput (nodeId : String) : Exec σ Unit :=
  changeState fun s => s.recordOutput nodeId s.payload

/-- Executes a node, with the events around it: the transition it answered with, the node that
follows and the output that was taken. -/
def visit (c : Frame σ) (n : Node) : Exec σ (Transition × Option Node × Option String) := do
  emit c (.nodeStarted n.id n.type n.displayName)
  let t ← execute c n
  recordOutput n.id
  let (next, port) := c.graph.next n t
  emit c (.nodeFinished n.id n.type (next.map (·.id)) t.stop (← state))
  return (t, next, port)

end Exec

/-! ## 3. Runs -/

/-- The outcome of a run whose node failed. -/
def RunOutcome.ofFault (nodeId : String) (f : Fault) : RunOutcome :=
  if f.isCancelled then .cancelled else .failed nodeId f.message

/-- How a run that can go no further ends at a node. -/
def RunOutcome.atEnd (nodeId : String) (t : Transition) (port : Option String) : RunOutcome :=
  if t.stop then .completed (.endReached nodeId) else .completed (.noOutgoingEdge nodeId port)

/-- Goes on from a node, executing so many nodes at most: the outcome, the nodes executed, and the
session after them. -/
def runFrom (c : Frame σ) : Nat → Node → Session σ → RunOutcome × List String × Session σ
  | left, n, s =>
    if c.host.cancelled s.world then (.cancelled, [], s)
    else match left with
      | 0 => (.failed n.id "execution limit reached", [], s)
      | left + 1 =>
        match Exec.settle (Exec.visit c n) s with
        | (.error f, s) => (.ofFault n.id f, [n.id], s)
        | (.ok (t, next, port), s) =>
          if c.host.cancelled s.world then (.cancelled, [n.id], s)
          else match next with
            | none => (.atEnd n.id t port, [n.id], s)
            | some m =>
              let (outcome, visited, s) := runFrom c left m s
              (outcome, n.id :: visited, s)

/-- The event that ends a run. -/
def RunOutcome.happening : RunOutcome → Happening
  | .completed t => .runCompleted t.nodeId
  | .failed nodeId message => .runFailed nodeId message
  | .cancelled => .runCancelled

/-- The fault of a graph in which no run can start. -/
def noStartNode : Fault := .badSetup "graph has no start node"

/-- Runs a graph from a state in a world: the result, and the world after the run. -/
def runGraph (c : Frame σ) (state : RunState) (world : σ) : Except Fault (RunResult × σ) :=
  match c.graph.startNode? with
  | none => .error noStartNode
  | some start =>
    let tell (h : Happening) (w : σ) : σ :=
      c.host.deliver { executionId := c.executionId, happening := h } w
    let (outcome, visited, s) := runFrom c c.settings.maxSteps start
      { state, world := tell (.runStarted start.id) world }
    .ok ({ executionId := c.executionId, outcome, visited, state := s.state },
      tell outcome.happening s.world)

end Workgraph
