import Workgraph.Graph.Validity

/-!
# Plans

A plan lists the nodes that a run may visit, without running anything: all edges are followed from
the start node, depth first and in routing order, and every node is listed once. The issues of the
graph come with it.

* `Graph.plan` is the plan; it has no steps when there is no start node;
* `Graph.walk` works off a stack of nodes; at most one node is put on it for each edge, which bounds
  its fuel;
* `Node.summary` says in a line what a node will do.
-/

namespace Workgraph

open Json (Decoder fields?)

structure PlanStep where
  nodeId : String
  nodeType : NodeType
  title : String
  description : String
  deriving DecidableEq, Inhabited

structure Plan where
  steps : List PlanStep := []
  issues : List Issue := []
  deriving DecidableEq, Inhabited

/-! ## 1. Steps -/

/-- What the settings of a node add to the description of its type. -/
def NodeBody.detail? : NodeBody → Option String
  | .ifElse condition => some ("if " ++ Text.trim condition)
  | .switch b => some (toString b.caseCount ++ " cases on " ++ Text.trim b.selector)
  | .setVariable b => some ("set vars." ++ Text.trim b.path)
  | .getVariable b => some ("read vars." ++ Text.trim b.path)
  | .completion b => if b.model = "" then none else some ("model " ++ b.model)
  | _ => none

/-- What a node will do, in a line. -/
def Node.summary (n : Node) : String :=
  let base := (definitionOf n.type).description
  match n.data.body.detail? with
  | some detail => base ++ " (" ++ detail ++ ")"
  | none => base

def Node.planStep (n : Node) : PlanStep :=
  { nodeId := n.id, nodeType := n.type, title := n.displayName, description := n.summary }

/-! ## 2. The walk -/

namespace Graph

/-- The targets of the edges out of a node, in routing order. -/
def targets (g : Graph) (n : Node) : List Node :=
  (g.routes n).filterMap fun r => g.findNode? r.edge.target

/-- The nodes visited from a stack of nodes on, when some ids have been visited before. -/
def walk (g : Graph) : Nat → List String → List Node → List Node
  | 0, _, _ => []
  | _, _, [] => []
  | fuel + 1, seen, n :: stack =>
    if n.id ∈ seen then g.walk fuel seen stack
    else
      let seen := n.id :: seen
      n :: g.walk fuel seen ((g.targets n).filter (·.id ∉ seen) ++ stack)

/-- The nodes that a plan lists. -/
def planNodes (g : Graph) : List Node :=
  match g.startNode? with
  | some start => g.walk (g.edges.length + 1) [] [start]
  | none => []

/-- The plan of a graph. -/
def plan (g : Graph) : Plan := { steps := g.planNodes.map Node.planStep, issues := g.issues }

end Graph

/-! ## 3. As documents -/

namespace PlanStep

def decode : Decoder PlanStep := fun s d => do
  let [nodeId, nodeType, title, description] ←
    fields? ["nodeId", "nodeType", "title", "description"] d | none
  return {
    nodeId := ← nodeId.required .string s
    nodeType := ← nodeType.required NodeType.decode s
    title := ← title.required .string s
    description := ← description.required .string s }

def encode (p : PlanStep) : Json := .ofMembers
  [("nodeId", .string p.nodeId), ("nodeType", p.nodeType.encode), ("title", .string p.title),
    ("description", .string p.description)]

end PlanStep

namespace Plan

def decode : Decoder Plan := fun s d => do
  let [steps, issues] ← fields? ["steps", "issues"] d | none
  return {
    steps := ← steps.required (.list PlanStep.decode) s
    issues := ← issues.required (.list Issue.decode) s }

def encode (p : Plan) : Json := .ofMembers
  [("steps", .ofList PlanStep.encode p.steps), ("issues", .ofList Issue.encode p.issues)]

end Plan

end Workgraph
