import Workgraph.Run.State

/-!
# Results of runs

How a run ended, which nodes it executed, and the state that it left.
-/

namespace Workgraph

open Json (Decoder fields? tagged? noFields)

/-- Why a completed run went no further. -/
inductive Termination where
  /-- A node asked to stop. -/
  | endReached (nodeId : String)
  /-- No edge on the chain of control leaves the node, or the output it chose. -/
  | noOutgoingEdge (nodeId : String) (port : Option String)
  deriving DecidableEq, Inhabited

inductive RunOutcome where
  | completed (termination : Termination)
  | failed (nodeId message : String)
  | cancelled
  deriving DecidableEq, Inhabited

structure RunResult where
  executionId : String
  outcome : RunOutcome
  /-- The nodes that were executed, in order. -/
  visited : List String
  state : RunState
  deriving DecidableEq, Inhabited

namespace Termination

/-- The node at which the run ended. -/
def nodeId : Termination → String
  | .endReached id => id
  | .noOutgoingEdge id _ => id

def decode : Decoder Termination := fun s d => do
  let (name, others) ← tagged? "kind" ["endReached", "noOutgoingEdge"] s d
  match name with
  | "endReached" => do
    let [nodeId] ← fields? ["nodeId"] others | none
    return .endReached (← nodeId.required .string .held)
  | _ => do
    let [nodeId, port] ← fields? ["nodeId", "port"] others | none
    return .noOutgoingEdge (← nodeId.required .string .held) (← port.nullable .string .held)

def encode : Termination → Json
  | .endReached nodeId => .ofMembers [("kind", .string "endReached"), ("nodeId", .string nodeId)]
  | .noOutgoingEdge nodeId port => .ofMembers
    [("kind", .string "noOutgoingEdge"), ("nodeId", .string nodeId),
      ("port", .ofOption .string port)]

end Termination

namespace RunOutcome

def isCompleted : RunOutcome → Bool
  | .completed _ => true
  | _ => false

def decode : Decoder RunOutcome := fun s d => do
  let (name, others) ← tagged? "status" ["completed", "failed", "cancelled"] s d
  match name with
  | "completed" => do
    let [termination] ← fields? ["termination"] others | none
    return .completed (← termination.required Termination.decode .held)
  | "failed" => do
    let [nodeId, message] ← fields? ["nodeId", "message"] others | none
    return .failed (← nodeId.required .string .held) (← message.required .string .held)
  | _ => (noFields others).map fun _ => .cancelled

def encode : RunOutcome → Json
  | .completed termination => .ofMembers
    [("status", .string "completed"), ("termination", termination.encode)]
  | .failed nodeId message => .ofMembers
    [("status", .string "failed"), ("nodeId", .string nodeId), ("message", .string message)]
  | .cancelled => .ofMembers [("status", .string "cancelled")]

end RunOutcome

namespace RunResult

def decode : Decoder RunResult := fun s d => do
  let [executionId, outcome, visited, state] ←
    fields? ["executionId", "outcome", "visited", "state"] d | none
  return {
    executionId := ← executionId.required .string s
    outcome := ← outcome.required RunOutcome.decode s
    visited := ← visited.required (.list .string) s
    state := ← state.required RunState.decode s }

def encode (r : RunResult) : Json := .ofMembers
  [("executionId", .string r.executionId), ("outcome", r.outcome.encode),
    ("visited", .ofStrings r.visited), ("state", r.state.encode)]

end RunResult

end Workgraph
