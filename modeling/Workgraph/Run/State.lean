import Workgraph.Dialogue
import Workgraph.Json.Path

/-!
# The state of a run

What a run carries from node to node: the payload, the context fragments, the variables, the
conversation, and the outputs recorded for the nodes that ran.

* variables are written through `setVar` and `replaceVars` only; each write advances `generation`,
  by which values computed from older variables are known to be stale;
* `pushContext` keeps the fragments in descending priority, equal ones in the order of insertion.
-/

namespace Workgraph

open Json (Decoder fields?)

structure RunState where
  /-- The value passed along the chain of control. -/
  payload : Json := .null
  context : List Fragment := []
  vars : Json := .object []
  conversation : List Turn := []
  /-- The outputs recorded for nodes, by node id. -/
  outputs : Keyed Json := []
  /-- How often the variables were written. -/
  generation : Nat := 0
  deriving DecidableEq, Inhabited

namespace RunState

/-- What becomes of a value that replaces the variables: null counts as no variables, and what is
no object is put under the name `value`. -/
def asVars : Json → Json
  | .object members => .object members
  | .null => .object []
  | v => .object [("value", v)]

def replaceVars (s : RunState) (v : Json) : RunState :=
  { s with vars := asVars v, generation := s.generation + 1 }

/-- Reads a variable by its dot path. -/
def getVar? (s : RunState) (path : String) : Option Json := s.vars.getPath? path

/-- Writes a variable by its dot path. -/
def setVar (s : RunState) (path : String) (v : Json) : Except Fault RunState :=
  (s.vars.setPath path v).map fun vars => { s with vars, generation := s.generation + 1 }

def pushContext (s : RunState) (f : Fragment) : RunState := { s with context := f.insert s.context }

/-- Records the output of a node. -/
def recordOutput (s : RunState) (nodeId : String) (v : Json) : RunState :=
  { s with outputs := s.outputs.set nodeId v }

/-- Adds a turn to the conversation. -/
def converse (s : RunState) (t : Turn) : RunState :=
  { s with conversation := s.conversation ++ [t] }

def decode : Decoder RunState := fun s d => do
  let [payload, context, vars, conversation, outputs] ← fields?
    ["payload", "contextMessages", "vars", "conversation", "nodeOutputs"] d | none
  return {
    payload := ← payload.required .value s
    context := ← context.required (.list Fragment.decode) s
    vars := ← vars.required .value s
    conversation := ← conversation.required (.list Turn.decode) s
    outputs := ← outputs.required (.keyed .value) s }

def encode (s : RunState) : Json := .ofMembers
  [("payload", s.payload), ("contextMessages", .ofList Fragment.encode s.context),
    ("vars", s.vars), ("conversation", .ofList Turn.encode s.conversation),
    ("nodeOutputs", .object s.outputs)]

end RunState

end Workgraph
