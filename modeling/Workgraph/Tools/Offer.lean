import Workgraph.Dataflow
import Workgraph.Graph.Definition
import Workgraph.Model.Exchange
import Workgraph.Settings
import Workgraph.Tools.Gate

/-!
# The tools of a consumer

A node that asks the model may have tool providers wired into its `tools` port. Before it asks, the
enabled ones are collected.

* `Node.tool?` is the tool that a provider offers, as the model sees it;
* `Node.guidance?` is the fragment that a retrieval provider adds to the context;
* `Tools.collect` goes through the providers in the order of their wiring: muted and disabled ones
  are left out, a second one of a type of which only one may serve is an error, and of two tools
  with one name the first counts.
-/

namespace Workgraph

/-! ## 1. What a provider offers -/

namespace Tools

def searchName : String := "search_knowledge"

def readName : String := "read_document"

def stateName : String := "global_state"

/-- The name of a tool that draws a choice and has no name of its own. -/
def drawName : String := "random_choice"

/-- The guidance of a retrieval provider that sets none. -/
def defaultGuidance : String :=
  "You can search the knowledge store with the search_knowledge tool. "
    ++ "Write short, specific queries that name the entities and facts you need, "
    ++ "use several queries for different aspects of the question, "
    ++ "and cite the sources you rely on."

/-- The schema of an object with some properties, of which some must be given. -/
def schema (properties : List (String × Json)) (required : List String) : Json := .ofMembers
  [("type", .string "object"), ("properties", .ofMembers properties),
    ("required", .ofStrings required)]

def ofType (name : String) : Json := .ofMembers [("type", .string name)]

/-- The schema of one of several texts. -/
def oneOf (texts : List String) : Json :=
  .ofMembers [("type", .string "string"), ("enum", .ofStrings texts)]

end Tools

open Tools

namespace RandomizerBody

def tool (b : RandomizerBody) : ToolDefinition where
  name := if Text.isAllBlank b.toolName then drawName else Text.trim b.toolName
  description := b.description
  parameters := .ofMembers [("type", .string "object"), ("properties", .object []),
    ("additionalProperties", .bool false)]

end RandomizerBody

namespace RetrievalBody

/-- The queries that one call may hold: at least one. -/
def queryBound (b : RetrievalBody) : Nat := max b.maxQueries 1

def tool (b : RetrievalBody) : ToolDefinition where
  name := searchName
  description :=
    "Search the knowledge store. Provide between 1 and " ++ toString b.queryBound ++ " queries."
  parameters := schema
    [("queries", .ofMembers [("type", .string "array"), ("items", ofType "string"),
      ("minItems", .ofNat 1), ("maxItems", .ofNat b.queryBound)])] ["queries"]

/-- The text that tells the model how to write queries. -/
def guidanceText (b : RetrievalBody) : String :=
  if Text.isAllBlank b.guidance then defaultGuidance else b.guidance

end RetrievalBody

namespace DocumentReaderBody

/-- The attached documents with their titles. -/
def listing (b : DocumentReaderBody) : String :=
  ", ".intercalate (b.documents.map fun d => d.id ++ " (" ++ d.title ++ ")")

def tool (b : DocumentReaderBody) : ToolDefinition where
  name := readName
  description := "Read an attached document. Available: " ++ b.listing
  parameters := schema [("id", oneOf (b.documents.map (·.id)))] ["id"]

end DocumentReaderBody

namespace GlobalStateBody

def actions (b : GlobalStateBody) : List String :=
  if b.allowWrite then ["get", "set"] else ["get"]

def tool (b : GlobalStateBody) : ToolDefinition where
  name := stateName
  description := "Read or write shared variables by dot-separated path."
  parameters := schema
    [("action", oneOf b.actions), ("path", ofType "string"), ("value", .object [])]
    ["action", "path"]

end GlobalStateBody

/-- The tool that a node with a body offers. -/
def NodeBody.tool? : NodeBody → Option ToolDefinition
  | .randomizer b => some b.tool
  | .retrieval b => some b.tool
  | .documentReader b => some b.tool
  | .globalState b => some b.tool
  | _ => none

/-- The tool that a node offers. -/
def Node.tool? (n : Node) : Option ToolDefinition := n.data.body.tool?

/-- The fragment that a node adds to the context of its consumers. -/
def Node.guidance? (n : Node) (c : ContextSettings) : Option Fragment :=
  match n.data.body with
  | .retrieval b => some
    { role := .system, text := b.guidanceText, priority := c.guidancePriority
      sourceNodeId := some n.id }
  | _ => none

/-! ## 2. Collecting -/

/-- A tool with the provider that serves it. -/
structure ToolBinding where
  providerId : String
  providerType : NodeType
  definition : ToolDefinition
  deriving DecidableEq, Inhabited

/-- The tools of a consumer, and the fragments that their providers add. -/
structure ToolSet where
  tools : List ToolBinding := []
  context : List Fragment := []
  deriving DecidableEq, Inhabited

namespace ToolSet

def definitions (t : ToolSet) : List ToolDefinition := t.tools.map (·.definition)

/-- The tool with a name. -/
def find? (t : ToolSet) (name : String) : Option ToolBinding :=
  t.tools.find? fun b => b.definition.name = name

/-- The set with the tool and the guidance of one more provider, unless the name is taken. -/
def add (t : ToolSet) (n : Node) (c : ContextSettings) : ToolSet :=
  match n.tool? with
  | none => t
  | some definition =>
    if (t.find? definition.name).isSome then t
    else
      { tools := t.tools ++ [{ providerId := n.id, providerType := n.type, definition }]
        context := t.context ++ (n.guidance? c).toList }

end ToolSet

namespace Tools

/-- Whether nothing turns a provider off. -/
def isOpen (e : ScriptEngine) (g : Graph) (s : RunState) (n : Node) : StateM Resolver Bool :=
  if g.isWired n.id PortId.enable then do
    return (← Resolver.input? e g s n.id PortId.enable).any isEnabled
  else return true

/-- What is known while providers are collected. -/
structure Collected where
  set : ToolSet := {}
  /-- The providers of types of which only one may serve. -/
  singles : List (NodeType × String) := []

/-- The error of a second provider of a type of which only one may serve. -/
def secondProvider (consumer : String) (type : NodeType) (first second : String) : Fault :=
  .badSetup ("'" ++ consumer ++ "' has more than one " ++ (definitionOf type).label
    ++ " provider ('" ++ first ++ "' and '" ++ second ++ "')")

/-- Adds an open provider. -/
def Collected.admit (c : Collected) (consumer : String) (n : Node) (settings : ContextSettings) :
    Except Fault Collected :=
  if (definitionOf n.type).singlePerConsumer then
    match c.singles.find? fun e => e.1 = n.type with
    | some (_, first) => .error (secondProvider consumer n.type first n.id)
    | none => .ok { set := c.set.add n settings, singles := (n.type, n.id) :: c.singles }
  else .ok { c with set := c.set.add n settings }

/-- The provider at the other end of an edge, if it provides a tool and is not muted. -/
def providerOf? (g : Graph) (edge : Edge) : Option Node :=
  (g.findNode? edge.source).filter fun n => n.type.isToolProvider && !n.data.muted

/-- Goes on collecting along some edges. -/
def collectFrom (e : ScriptEngine) (g : Graph) (s : RunState) (settings : ContextSettings)
    (consumer : String) : List Edge → Collected → StateM Resolver (Except Fault ToolSet)
  | [], c => return .ok c.set
  | edge :: edges, c =>
    match providerOf? g edge with
    | none => collectFrom e g s settings consumer edges c
    | some n => do
      if ← isOpen e g s n then
        match c.admit consumer n settings with
        | .ok c => collectFrom e g s settings consumer edges c
        | .error f => return .error f
      else collectFrom e g s settings consumer edges c

/-- The tools of a consumer. -/
def collect (e : ScriptEngine) (g : Graph) (s : RunState) (settings : ContextSettings)
    (consumer : String) : StateM Resolver (Except Fault ToolSet) :=
  collectFrom e g s settings consumer (g.providerEdges consumer) {}

end Tools

end Workgraph
