import Workgraph.Graph.NodeType
import Workgraph.Role

/-!
# What a node is configured with

`NodeBody` holds the settings of a node, one constructor for each type of node. Every setting has a
default, so a body is known from its type alone (`NodeBody.initial`).
-/

namespace Workgraph

/-- The settings of a node that asks the model. -/
structure CompletionBody where
  /-- The model that is asked. -/
  model : String := ""
  /-- Placed before the context fragments unless blank. -/
  systemPrompt : String := ""
  temperature : Option Binary64 := none
  maxTokens : Option Nat := none
  /-- Whether the reply is wanted in pieces. -/
  stream : Bool := true
  /-- Replaces the configured limit of tool rounds. -/
  maxToolRounds : Option Nat := none
  deriving DecidableEq, Inhabited

/-- The settings of a node that branches in several ways. -/
structure SwitchBody where
  /-- The number of cases before clamping. -/
  cases : Nat := 2
  /-- Names of the cases, compared without regard to case. -/
  labels : List String := []
  selector : String := "0"
  deriving DecidableEq, Inhabited

/-- A switch has at least two cases and at most eight. -/
def SwitchBody.minCases : Nat := 2
def SwitchBody.maxCases : Nat := 8

/-- The number of cases after clamping. -/
def SwitchBody.caseCount (b : SwitchBody) : Nat := max minCases (min b.cases maxCases)

/-- How a script is read. -/
inductive ScriptMode where
  /-- A single expression. -/
  | expression
  /-- The body of a function that returns the value. -/
  | function
  deriving DecidableEq, Inhabited

structure TransformBody where
  mode : ScriptMode := .expression
  source : String := "input"
  deriving DecidableEq, Inhabited

structure GetVariableBody where
  /-- The dot path that is read. -/
  path : String := ""
  /-- The value of a path that leads nowhere. -/
  defaultValue : Option Json := none
  deriving DecidableEq, Inhabited

structure SetVariableBody where
  /-- The dot path that is written. -/
  path : String := ""
  /-- Gives the value when the value port is not wired; blank stands for the payload. -/
  expression : String := ""
  deriving DecidableEq, Inhabited

structure ContextMessageBody where
  role : Role := .system
  text : String := ""
  /-- Replaces the configured priority. -/
  priority : Option Int := none
  deriving DecidableEq, Inhabited

structure RandomizerBody where
  toolName : String := "random_choice"
  description : String := "Pick one option at random"
  choices : List String := []
  deriving DecidableEq, Inhabited

structure RetrievalBody where
  /-- The knowledge store that is searched. -/
  storeId : String := ""
  topK : Nat := 5
  /-- How many queries one call may hold. -/
  maxQueries : Nat := 3
  /-- Tells the model how to write queries; blank stands for a built-in text. -/
  guidance : String := ""
  deriving DecidableEq, Inhabited

/-- A document attached to a reader. -/
structure AttachedDocument where
  id : String := ""
  title : String := ""
  text : String := ""
  deriving DecidableEq, Inhabited

structure DocumentReaderBody where
  documents : List AttachedDocument := []
  /-- Longer documents are cut after this many characters. -/
  maxChars : Nat := 8000
  deriving DecidableEq, Inhabited

structure GlobalStateBody where
  /-- Whether the model may write. -/
  allowWrite : Bool := true
  /-- A path that all reads and writes are put under. -/
  scope : String := ""
  deriving DecidableEq, Inhabited

inductive NodeBody where
  | start
  | finish
  | completion (body : CompletionBody)
  | ifElse (condition : String)
  | switch (body : SwitchBody)
  | transform (body : TransformBody)
  | getVariable (body : GetVariableBody)
  | setVariable (body : SetVariableBody)
  | contextMessage (body : ContextMessageBody)
  | randomizer (body : RandomizerBody)
  | retrieval (body : RetrievalBody)
  | documentReader (body : DocumentReaderBody)
  | globalState (body : GlobalStateBody)
  deriving DecidableEq, Inhabited

namespace NodeBody

/-- The condition of a two-way branch that sets none. -/
def initialCondition : String := "true"

/-- The type that a body belongs to. -/
def nodeType : NodeBody → NodeType
  | .start => .start
  | .finish => .finish
  | .completion _ => .completion
  | .ifElse _ => .ifElse
  | .switch _ => .switch
  | .transform _ => .transform
  | .getVariable _ => .getVariable
  | .setVariable _ => .setVariable
  | .contextMessage _ => .contextMessage
  | .randomizer _ => .randomizer
  | .retrieval _ => .retrieval
  | .documentReader _ => .documentReader
  | .globalState _ => .globalState

/-- The body of a new node of a type. -/
def initial : NodeType → NodeBody
  | .start => .start
  | .finish => .finish
  | .completion => .completion {}
  | .ifElse => .ifElse initialCondition
  | .switch => .switch {}
  | .transform => .transform {}
  | .getVariable => .getVariable {}
  | .setVariable => .setVariable {}
  | .contextMessage => .contextMessage {}
  | .randomizer => .randomizer {}
  | .retrieval => .retrieval {}
  | .documentReader => .documentReader {}
  | .globalState => .globalState {}

theorem nodeType_initial (t : NodeType) : (initial t).nodeType = t := by cases t <;> rfl

end NodeBody

end Workgraph
