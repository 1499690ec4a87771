import Workgraph.Graph.Selection
import Workgraph.Run.Completion

/-!
# Executing nodes

What each type of node does when the chain of control reaches it, and how it is left (`Transition`).

* A muted node does nothing and is left through its first output.
* A branch and a switch leave through the output that their script names; all other nodes leave
  through their only output.
* Tool providers do not belong on the chain; executing one is an error.
-/

namespace Workgraph

/-- How a node is left. -/
structure Transition where
  /-- The output it chose; none means its only output. -/
  port : Option String := none
  /-- Whether the run ends here. -/
  stop : Bool := false
  deriving DecidableEq, Inhabited

/-- A text without blanks around it, which must not be empty. -/
def required (text what : String) : Except Fault String :=
  if Text.isAllBlank text then .error (.badSetup (what ++ " is empty")) else .ok (Text.trim text)

/-- The output that the value of a condition names. -/
def branchPort (nodeId : String) : Json → Except Fault String
  | .bool true => .ok PortId.thenBranch
  | .bool false => .ok PortId.elseBranch
  | v => .error (.failed
    ("condition of '" ++ nodeId ++ "' must evaluate to a boolean, got " ++ v.compact))

/-- The output that the value of a selector names. -/
def selectedPort (nodeId : String) (b : SwitchBody) (v : Json) : Except Fault String :=
  match b.portFor v with
  | .ok port => .ok port
  | .error reason => .error (.failed ("switch '" ++ nodeId ++ "': " ++ reason))

namespace Exec

variable {σ : Type}

/-- The value of a script over the payload that must not be blank. -/
def requiredScript (c : Frame σ) (mode : ScriptMode) (source what : String) : Exec σ Json := do
  script c mode (← ofExcept (required source what))

def setPayload (v : Json) : Exec σ Unit := changeState fun s => { s with payload := v }

/-- The value that a node writes to a variable: the one that is wired to it, the one that its script
gives, or the payload. -/
def valueToWrite (c : Frame σ) (nodeId : String) (b : SetVariableBody) : Exec σ Json := do
  let s ← state
  if c.graph.isWired nodeId PortId.value then
    return (← read c (Resolver.input? c.engine c.graph s nodeId PortId.value)).getD .null
  else if Text.isAllBlank b.expression then return s.payload
  else script c .expression (Text.trim b.expression)

def writeVariable (c : Frame σ) (nodeId : String) (b : SetVariableBody) : Exec σ Unit := do
  let v ← valueToWrite c nodeId b
  let s ← ofExcept ((← state).setVar b.path v)
  changeState fun _ => s
  forget

/-- The fragment of a node that adds one. -/
def addFragment (c : Frame σ) (nodeId : String) (b : ContextMessageBody) : Exec σ Unit := do
  if Text.isAllBlank b.text then trace c ("'" ++ nodeId ++ "' has no text; nothing added")
  else
    let priority := b.priority.getD c.settings.context.fragmentPriority
    changeState fun s =>
      s.pushContext { role := b.role, text := b.text, priority, sourceNodeId := some nodeId }

/-- What a node with a body does. -/
def perform (c : Frame σ) (nodeId : String) : NodeBody → Exec σ Transition
  | .start => return {}
  | .finish => return { stop := true }
  | .ifElse condition => do
    let v ← requiredScript c .expression condition "condition"
    return { port := some (← ofExcept (branchPort nodeId v)) }
  | .switch b => do
    let v ← requiredScript c .expression b.selector "selector"
    return { port := some (← ofExcept (selectedPort nodeId b v)) }
  | .transform b => do
    setPayload (← requiredScript c b.mode b.source "transform source")
    return {}
  | .getVariable b => do
    let path ← ofExcept (required b.path "variable path")
    setPayload (b.valueAt (← state) path)
    return {}
  | .setVariable b => do
    writeVariable c nodeId b
    return {}
  | .contextMessage b => do
    addFragment c nodeId b
    return {}
  | .completion b => do
    complete c nodeId b
    return {}
  | .randomizer _ | .retrieval _ | .documentReader _ | .globalState _ =>
    throw (.failed ("'" ++ nodeId ++ "' is a tool provider and cannot run on the control chain"))

/-- What a node does. -/
def execute (c : Frame σ) (n : Node) : Exec σ Transition := do
  trace c (n.displayName ++ " (" ++ n.type.name ++ ")")
  if n.data.muted then
    trace c ("Skipping muted node '" ++ n.id ++ "'")
    return { port := n.outputPorts.head?.map (·.id) }
  else perform c n.id n.data.body

end Exec

end Workgraph
