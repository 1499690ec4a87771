import Workgraph.Model.Usage
import Workgraph.Graph.NodeType
import Workgraph.Run.State

/-!
# Events of a run

What a run tells its host while it goes on. Every event carries the id of its run; `Happening` is
what happened.
-/

namespace Workgraph

open Json (Decoder fields? tagged? noFields)

inductive Happening where
  | runStarted (startNodeId : String)
  /-- A line about the progress of the run. -/
  | trace (message : String)
  /-- A node is about to be executed. -/
  | nodeStarted (nodeId : String) (nodeType : NodeType) (title : String)
  /-- A node was executed; the state is the one after it. -/
  | nodeFinished (nodeId : String) (nodeType : NodeType) (nextNodeId : Option String) (stop : Bool)
      (state : RunState)
  /-- Further text of the assistant. -/
  | assistantDelta (nodeId delta : String)
  /-- The usage of a node's exchange with the model. -/
  | usage (nodeId model : String) (usage : Usage)
  | runCompleted (nodeId : String)
  | runFailed (nodeId message : String)
  | runCancelled
  deriving DecidableEq, Inhabited

structure RunEvent where
  executionId : String
  happening : Happening
  deriving DecidableEq, Inhabited

namespace Happening

/-- Whether an event ends a run. -/
def isTerminal : Happening → Bool
  | .runCompleted _ | .runFailed _ _ | .runCancelled => true
  | _ => false

/-- The name of an event in documents. -/
def name : Happening → String
  | .runStarted _ => "runStarted"
  | .trace _ => "trace"
  | .nodeStarted _ _ _ => "nodeStarted"
  | .nodeFinished _ _ _ _ _ => "nodeFinished"
  | .assistantDelta _ _ => "assistantDelta"
  | .usage _ _ _ => "usage"
  | .runCompleted _ => "runCompleted"
  | .runFailed _ _ => "runFailed"
  | .runCancelled => "runCancelled"

def names : List String :=
  ["runStarted", "trace", "nodeStarted", "nodeFinished", "assistantDelta", "usage", "runCompleted",
    "runFailed", "runCancelled"]

/-- What is written of an event beside its name and its run. -/
def members : Happening → List (String × Json)
  | .runStarted startNodeId => [("startNodeId", .string startNodeId)]
  | .trace message => [("message", .string message)]
  | .nodeStarted nodeId nodeType title =>
    [("nodeId", .string nodeId), ("nodeType", nodeType.encode), ("title", .string title)]
  | .nodeFinished nodeId nodeType nextNodeId stop state =>
    [("nodeId", .string nodeId), ("nodeType", nodeType.encode),
      ("nextNodeId", .ofOption .string nextNodeId), ("stop", .bool stop), ("state", state.encode)]
  | .assistantDelta nodeId delta => [("nodeId", .string nodeId), ("delta", .string delta)]
  | .usage nodeId model total =>
    [("nodeId", .string nodeId), ("model", .string model), ("usage", total.encode)]
  | .runCompleted nodeId => [("nodeId", .string nodeId)]
  | .runFailed nodeId message => [("nodeId", .string nodeId), ("message", .string message)]
  | .runCancelled => []

end Happening

namespace RunEvent

def decode : Decoder RunEvent := fun s d => do
  let (name, others) ← tagged? "type" Happening.names s d
  match name with
  | "runStarted" => do
    let [executionId, startNodeId] ← fields? ["executionId", "startNodeId"] others | none
    return ⟨← executionId.required .string .held,
      .runStarted (← startNodeId.required .string .held)⟩
  | "trace" => do
    let [executionId, message] ← fields? ["executionId", "message"] others | none
    return ⟨← executionId.required .string .held, .trace (← message.required .string .held)⟩
  | "nodeStarted" => do
    let [executionId, nodeId, nodeType, title] ←
      fields? ["executionId", "nodeId", "nodeType", "title"] others | none
    return ⟨← executionId.required .string .held,
      .nodeStarted (← nodeId.required .string .held) (← nodeType.required NodeType.decode .held)
        (← title.required .string .held)⟩
  | "nodeFinished" => do
    let [executionId, nodeId, nodeType, nextNodeId, stop, state] ← fields?
      ["executionId", "nodeId", "nodeType", "nextNodeId", "stop", "state"] others | none
    return ⟨← executionId.required .string .held,
      .nodeFinished (← nodeId.required .string .held) (← nodeType.required NodeType.decode .held)
        (← nextNodeId.nullable .string .held) (← stop.required .bool .held)
        (← state.required RunState.decode .held)⟩
  | "assistantDelta" => do
    let [executionId, nodeId, delta] ← fields? ["executionId", "nodeId", "delta"] others | none
    return ⟨← executionId.required .string .held,
      .assistantDelta (← nodeId.required .string .held) (← delta.required .string .held)⟩
  | "usage" => do
    let [executionId, nodeId, model, usage] ←
      fields? ["executionId", "nodeId", "model", "usage"] others | none
    return ⟨← executionId.required .string .held,
      .usage (← nodeId.required .string .held) (← model.required .string .held)
        (← usage.required Usage.decode .held)⟩
  | "runCompleted" => do
    let [executionId, nodeId] ← fields? ["executionId", "nodeId"] others | none
    return ⟨← executionId.required .string .held, .runCompleted (← nodeId.required .string .held)⟩
  | "runFailed" => do
    let [executionId, nodeId, message] ← fields? ["executionId", "nodeId", "message"] others | none
    return ⟨← executionId.required .string .held,
      .runFailed (← nodeId.required .string .held) (← message.required .string .held)⟩
  | "runCancelled" => do
    let [executionId] ← fields? ["executionId"] others | none
    return ⟨← executionId.required .string .held, .runCancelled⟩
  | _ => none

def encode (e : RunEvent) : Json :=
  .ofMembers ([("type", .string e.happening.name), ("executionId", .string e.executionId)]
    ++ e.happening.members)

end RunEvent

end Workgraph
