import Workgraph.Graph.Route

/-!
# Depth-first traversal

A traversal from the start node along all edges whose target exists, whatever their ports. It finds
the ids that can be reached and the edges that close a cycle: those that lead back to a node that
is still open, that is, to the node itself or to one through which it was reached.

* `Graph.successors` are the edges followed from a node, in routing order;
* `Traversal` is what has been found so far: the ids entered and the closing edges in the order in
  which they were met;
* `Graph.explore` enters a node; its fuel bounds the depth, which is at most the number of ids.

When an id is used twice, the last node that has it is entered, except at the start.
-/

namespace Workgraph

/-- What a traversal has found. -/
structure Traversal where
  /-- The ids entered, the latest first. -/
  entered : List String := []
  /-- The edges that close a cycle, the latest first. -/
  closing : List Edge := []

namespace Graph

/-- The edges out of a node whose target exists. -/
def successors (g : Graph) (n : Node) : List Edge :=
  ((g.routes n).map (·.edge)).filter fun e => g.hasNode e.target

/-- Enters a node and everything that can be reached from it and was not entered before. `trail`
holds the ids of the nodes that are open, this one first. -/
def explore (g : Graph) : Nat → List String → Node → Traversal → Traversal
  | 0, _, _, t => t
  | fuel + 1, trail, n, t =>
    (g.successors n).foldl (fun t e =>
      if e.target ∈ trail then { t with closing := e :: t.closing }
      else if e.target ∈ t.entered then t
      else match g.findLastNode? e.target with
        | some m =>
          g.explore fuel (m.id :: trail) m { t with entered := m.id :: t.entered }
        | none => t) t

/-- The traversal from a start node. -/
def traversal (g : Graph) (start : Node) : Traversal :=
  g.explore (g.nodes.length + 1) [start.id] start { entered := [start.id] }

end Graph

end Workgraph
