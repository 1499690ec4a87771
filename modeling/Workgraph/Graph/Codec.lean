import Workgraph.Graph
import Workgraph.Json.Reader
import Workgraph.Width

/-!
# Graphs as documents

A node's settings stand beside its title, label and mute flag in one object, together with their
type. Fields that a document leaves out get the defaults of `NodeBody`; an edge without a port is
written without one.

* `Graph.ofText?` reads a graph, `Graph.encode` gives the value that writes it;
* a node's data is always an object: its settings are found among the members that are not its own,
  so all of these must be readable.
-/

namespace Workgraph

open Json (Decoder Document Source fields? tagged? noFields)

/-! ## 1. Settings -/

namespace ScriptMode

def name : ScriptMode → String
  | .expression => "expression"
  | .function => "function"

def table : List (String × ScriptMode) := [("expression", .expression), ("function", .function)]

def decode : Decoder ScriptMode := Decoder.choice table

end ScriptMode

namespace CompletionBody

def decode : Decoder CompletionBody := fun s d => do
  let [model, systemPrompt, temperature, maxTokens, stream, maxToolRounds] ← fields?
    ["model", "systemPrompt", "temperature", "maxTokens", "stream", "maxToolRounds"] d | none
  return {
    model := ← model.getD .string "" s
    systemPrompt := ← systemPrompt.getD .string "" s
    temperature := ← temperature.omittable .real s
    maxTokens := ← maxTokens.omittable (.natural Width.natural32) s
    stream := ← stream.getD .bool true s
    maxToolRounds := ← maxToolRounds.omittable (.natural Width.natural32) s }

def members (b : CompletionBody) : List (String × Json) :=
  [("model", .string b.model), ("systemPrompt", .string b.systemPrompt),
    ("temperature", .ofOption .ofReal b.temperature), ("maxTokens", .ofOption .ofNat b.maxTokens),
    ("stream", .bool b.stream), ("maxToolRounds", .ofOption .ofNat b.maxToolRounds)]

end CompletionBody

namespace SwitchBody

def decode : Decoder SwitchBody := fun s d => do
  let [cases, labels, selector] ← fields? ["cases", "labels", "selector"] d | none
  return {
    cases := ← cases.getD (.natural Width.natural8) 2 s
    labels := ← labels.getD (.list .string) [] s
    selector := ← selector.getD .string "0" s }

def members (b : SwitchBody) : List (String × Json) :=
  [("cases", .ofNat b.cases), ("labels", .ofStrings b.labels), ("selector", .string b.selector)]

end SwitchBody

namespace TransformBody

def decode : Decoder TransformBody := fun s d => do
  let [mode, source] ← fields? ["mode", "source"] d | none
  return {
    mode := ← mode.getD ScriptMode.decode .expression s
    source := ← source.getD .string "input" s }

def members (b : TransformBody) : List (String × Json) :=
  [("mode", .string b.mode.name), ("source", .string b.source)]

end TransformBody

namespace GetVariableBody

def decode : Decoder GetVariableBody := fun s d => do
  let [path, defaultValue] ← fields? ["path", "defaultValue"] d | none
  return {
    path := ← path.getD .string "" s
    defaultValue := ← defaultValue.omittable .value s }

def members (b : GetVariableBody) : List (String × Json) :=
  [("path", .string b.path), ("defaultValue", .ofOption id b.defaultValue)]

end GetVariableBody

namespace SetVariableBody

def decode : Decoder SetVariableBody := fun s d => do
  let [path, expression] ← fields? ["path", "expression"] d | none
  return {
    path := ← path.getD .string "" s
    expression := ← expression.getD .string "" s }

def members (b : SetVariableBody) : List (String × Json) :=
  [("path", .string b.path), ("expression", .string b.expression)]

end SetVariableBody

namespace ContextMessageBody

def decode : Decoder ContextMessageBody := fun s d => do
  let [role, text, priority] ← fields? ["role", "text", "priority"] d | none
  return {
    role := ← role.getD Role.decode .system s
    text := ← text.getD .string "" s
    priority := ← priority.omittable (.integer Width.least32 Width.greatest32) s }

def members (b : ContextMessageBody) : List (String × Json) :=
  [("role", b.role.encode), ("text", .string b.text), ("priority", .ofOption .ofInt b.priority)]

end ContextMessageBody

namespace RandomizerBody

def decode : Decoder RandomizerBody := fun s d => do
  let [toolName, description, choices] ← fields? ["toolName", "description", "choices"] d | none
  let initial : RandomizerBody := {}
  return {
    toolName := ← toolName.getD .string initial.toolName s
    description := ← description.getD .string initial.description s
    choices := ← choices.getD (.list .string) [] s }

def members (b : RandomizerBody) : List (String × Json) :=
  [("toolName", .string b.toolName), ("description", .string b.description),
    ("choices", .ofStrings b.choices)]

end RandomizerBody

namespace RetrievalBody

def decode : Decoder RetrievalBody := fun s d => do
  let [storeId, topK, maxQueries, guidance] ←
    fields? ["storeId", "topK", "maxQueries", "guidance"] d | none
  let initial : RetrievalBody := {}
  return {
    storeId := ← storeId.getD .string "" s
    topK := ← topK.getD (.natural Width.natural32) initial.topK s
    maxQueries := ← maxQueries.getD (.natural Width.natural32) initial.maxQueries s
    guidance := ← guidance.getD .string "" s }

def members (b : RetrievalBody) : List (String × Json) :=
  [("storeId", .string b.storeId), ("topK", .ofNat b.topK), ("maxQueries", .ofNat b.maxQueries),
    ("guidance", .string b.guidance)]

end RetrievalBody

namespace AttachedDocument

def decode : Decoder AttachedDocument := fun s d => do
  let [id, title, text] ← fields? ["id", "title", "text"] d | none
  return {
    id := ← id.getD .string "" s
    title := ← title.getD .string "" s
    text := ← text.getD .string "" s }

def encode (a : AttachedDocument) : Json :=
  .ofMembers [("id", .string a.id), ("title", .string a.title), ("text", .string a.text)]

end AttachedDocument

namespace DocumentReaderBody

def decode : Decoder DocumentReaderBody := fun s d => do
  let [documents, maxChars] ← fields? ["documents", "maxChars"] d | none
  let initial : DocumentReaderBody := {}
  return {
    documents := ← documents.getD (.list AttachedDocument.decode) [] s
    maxChars := ← maxChars.getD (.natural Width.natural64) initial.maxChars s }

def members (b : DocumentReaderBody) : List (String × Json) :=
  [("documents", .ofList AttachedDocument.encode b.documents), ("maxChars", .ofNat b.maxChars)]

end DocumentReaderBody

namespace GlobalStateBody

def decode : Decoder GlobalStateBody := fun s d => do
  let [allowWrite, scope] ← fields? ["allowWrite", "scope"] d | none
  return {
    allowWrite := ← allowWrite.getD .bool true s
    scope := ← scope.getD .string "" s }

def members (b : GlobalStateBody) : List (String × Json) :=
  [("allowWrite", .bool b.allowWrite), ("scope", .string b.scope)]

end GlobalStateBody

/-! ## 2. Bodies -/

namespace NodeBody

/-- The body of a type, from what is written beside the type. -/
def decodeFor (type : NodeType) : Decoder NodeBody := fun s d =>
  match type with
  | .start => (fields? [] d).map fun _ => .start
  | .finish => (fields? [] d).map fun _ => .finish
  | .completion => (CompletionBody.decode s d).map .completion
  | .ifElse => do
    let [condition] ← fields? ["condition"] d | none
    return .ifElse (← condition.getD .string initialCondition s)
  | .switch => (SwitchBody.decode s d).map .switch
  | .transform => (TransformBody.decode s d).map .transform
  | .getVariable => (GetVariableBody.decode s d).map .getVariable
  | .setVariable => (SetVariableBody.decode s d).map .setVariable
  | .contextMessage => (ContextMessageBody.decode s d).map .contextMessage
  | .randomizer => (RandomizerBody.decode s d).map .randomizer
  | .retrieval => (RetrievalBody.decode s d).map .retrieval
  | .documentReader => (DocumentReaderBody.decode s d).map .documentReader
  | .globalState => (GlobalStateBody.decode s d).map .globalState

def decode : Decoder NodeBody := fun s d => do
  let (name, others) ← tagged? "type" (NodeType.all.map (·.name)) s d
  let type ← Decoder.entry? NodeType.table name
  decodeFor type .held others

/-- The members that write a body. -/
def members (b : NodeBody) : List (String × Json) :=
  ("type", b.nodeType.encode) :: match b with
    | .start | .finish => []
    | .completion b => b.members
    | .ifElse condition => [("condition", .string condition)]
    | .switch b => b.members
    | .transform b => b.members
    | .getVariable b => b.members
    | .setVariable b => b.members
    | .contextMessage b => b.members
    | .randomizer b => b.members
    | .retrieval b => b.members
    | .documentReader b => b.members
    | .globalState b => b.members

def encode (b : NodeBody) : Json := .ofMembers b.members

end NodeBody

/-! ## 3. Nodes, edges, graphs -/

namespace NodeData

/-- The members that are not settings. -/
def ownNames : List String := ["title", "label", "muted"]

def decode : Decoder NodeData := fun s d => do
  let .object members := d | none
  let [title, label, muted] ← fields? ownNames d | none
  let others := members.filter fun m => m.1 ∉ ownNames
  if others.all fun m => m.2.isReadable then
    return {
      title := ← title.required .string s
      label := ← label.getD .string "" s
      muted := ← muted.getD .bool false s
      body := ← NodeBody.decode .held (.object others) }
  else none

def encode (n : NodeData) : Json :=
  .ofMembers ([("title", .string n.title), ("label", .string n.label), ("muted", .bool n.muted)]
    ++ n.body.members)

end NodeData

namespace Edge

def decode : Decoder Edge := fun s d => do
  let [id, source, target, sourcePort, targetPort] ←
    fields? ["id", "source", "target", "sourcePort", "targetPort"] d | none
  return {
    id := ← id.required .string s
    source := ← source.required .string s
    target := ← target.required .string s
    sourcePort := ← sourcePort.omittable .string s
    targetPort := ← targetPort.omittable .string s }

def encode (e : Edge) : Json :=
  .ofMembers ([("id", .string e.id), ("source", .string e.source), ("target", .string e.target)]
    ++ Json.present "sourcePort" .string e.sourcePort
    ++ Json.present "targetPort" .string e.targetPort)

end Edge

namespace Node

def decode : Decoder Node := fun s d => do
  let [id, type, data] ← fields? ["id", "type", "data"] d | none
  return {
    id := ← id.required .string s
    type := ← type.required NodeType.decode s
    data := ← data.required NodeData.decode s }

def encode (n : Node) : Json :=
  .ofMembers [("id", .string n.id), ("type", n.type.encode), ("data", n.data.encode)]

end Node

namespace Graph

def decode : Decoder Graph := fun s d => do
  let [nodes, edges] ← fields? ["nodes", "edges"] d | none
  return {
    nodes := ← nodes.required (.list Node.decode) s
    edges := ← edges.required (.list Edge.decode) s }

/-- The graph that a text says. -/
def ofText? (s : String) : Option Graph := (Document.ofText? s).bind (decode .written)

def encode (g : Graph) : Json :=
  .ofMembers [("nodes", .ofList Node.encode g.nodes), ("edges", .ofList Edge.encode g.edges)]

end Graph

end Workgraph
