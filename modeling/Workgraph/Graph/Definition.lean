import Workgraph.Graph

/-!
# The catalogue of node types

`definitionOf` is the one place that says what a node type looks like: its label, category,
editable attributes, input and output ports, how many instances a graph may hold, and whether a
consumer may have several providers of the type.

* `inputPorts` and `outputPorts` are the ports of an instance; the outputs of a switch follow its
  body, all others are fixed;
* `Definition.catalogue` lists every definition, `Definition.creatableByLabel` those that an author
  may add, `Definition.bounded` those whose number is bounded;
* `Definition.describe` is the view of a definition for one instance.
-/

namespace Workgraph

/-! ## 1. Parts of a definition -/

/-- The groups in which node types are offered. -/
inductive Category where
  | control
  | ai
  | data
  | variables
  | tools
  deriving DecidableEq, Inhabited

/-- How an attribute is edited, and so what its value looks like. -/
inductive AttributeKind where
  | text
  | multiline
  | code
  | boolean
  | number (min max : Option Binary64)
  | select (options : List String)
  | stringList
  | json
  deriving DecidableEq, Inhabited

structure Attribute where
  /-- The name of the setting in the body. -/
  key : String
  label : String
  kind : AttributeKind
  deriving DecidableEq, Inhabited

/-- An attribute that is shown for some bodies only. -/
structure AttributeSchema extends Attribute where
  visible : NodeBody → Bool := fun _ => true

/-- How many instances of a type a graph may hold. -/
structure InstanceBounds where
  min : Nat
  max : Option Nat
  /-- The code of the issue when there are too few. -/
  missingCode : String
  /-- The code of the issue when there are too many. -/
  excessCode : String
  deriving DecidableEq

structure Definition where
  type : NodeType
  label : String
  category : Category
  description : String
  attributes : List AttributeSchema := []
  inputs : List Port
  outputs : NodeBody → List Port
  /-- Whether an author may add instances. -/
  creatable : Bool := true
  instances : Option InstanceBounds := none
  /-- Whether a consumer may have one provider of this type only. -/
  singlePerConsumer : Bool := false

/-! ## 2. Ports -/

namespace Definition

def flowIn : Port := .needed PortId.input "In" .flow

def flowOut : Port := .optional PortId.output "Out" .flow

def providerInputs : List Port := [.optional PortId.enable "Enable" .data]

def providerOutputs : List Port := [.optional PortId.tools "Tool" .tools]

end Definition

/-- The label of a case: the author's unless missing or blank. -/
def SwitchBody.caseLabel (b : SwitchBody) (i : Nat) : String :=
  match b.labels[i]? with
  | some label => if Text.isAllBlank label then "Case " ++ toString i else label
  | none => "Case " ++ toString i

/-- The outputs of a switch: one for each case. -/
def SwitchBody.ports (b : SwitchBody) : List Port :=
  (List.range b.caseCount).map fun i => .optional (PortId.case i) (b.caseLabel i) .flow

/-! ## 3. The definitions -/

namespace Definition

private def number (min max : Option Nat) : AttributeKind :=
  .number (min.map fun n => .ofInt n) (max.map fun n => .ofInt n)

private def editable (key label : String) (kind : AttributeKind) : AttributeSchema :=
  { key, label, kind }

/-- Whether a body reads a variable and says which. -/
def hasPath : NodeBody → Bool
  | .getVariable b => !Text.isAllBlank b.path
  | _ => false

private def provider (type : NodeType) (label description : String)
    (attributes : List AttributeSchema) (singlePerConsumer : Bool) : Definition :=
  { type, label, category := .tools, description, attributes, inputs := providerInputs
    outputs := fun _ => providerOutputs, singlePerConsumer }

/-- What a graph may hold of start nodes: exactly one. -/
def startBounds : InstanceBounds :=
  { min := 1, max := some 1, missingCode := "missing_start_node"
    excessCode := "multiple_start_nodes" }

end Definition

open Definition in
/-- The definition of a node type. -/
def definitionOf : NodeType → Definition
  | .start =>
    { type := .start, label := "Start", category := .control
      description := "Entry point of the run", inputs := [], outputs := fun _ => [flowOut]
      creatable := false, instances := some startBounds }
  | .finish =>
    { type := .finish, label := "End", category := .control, description := "Finishes the run"
      inputs := [flowIn], outputs := fun _ => [] }
  | .completion =>
    { type := .completion, label := "Completion", category := .ai
      description := "Asks the model for the next assistant turn"
      attributes := [
        editable "model" "Model" .text,
        editable "systemPrompt" "System prompt" .multiline,
        editable "temperature" "Temperature" (number (some 0) (some 2)),
        editable "maxTokens" "Max tokens" (number (some 1) none),
        editable "stream" "Stream" .boolean,
        editable "maxToolRounds" "Max tool rounds" (number (some 0) none)]
      inputs := [flowIn, { Port.optional PortId.tools "Tools" .tools with multiple := true }]
      outputs := fun _ => [flowOut] }
  | .ifElse =>
    { type := .ifElse, label := "If / Else", category := .control
      description := "Branches on a boolean expression"
      attributes := [editable "condition" "Condition" .code]
      inputs := [flowIn]
      outputs := fun _ =>
        [.optional PortId.thenBranch "Then" .flow, .optional PortId.elseBranch "Else" .flow] }
  | .switch =>
    { type := .switch, label := "Switch", category := .control
      description := "Routes to one of several cases"
      attributes := [
        editable "cases" "Cases" (number (some 2) (some 8)),
        editable "labels" "Case labels" .stringList,
        editable "selector" "Selector" .code]
      inputs := [flowIn]
      outputs := fun
        | .switch b => b.ports
        | _ => [] }
  | .transform =>
    { type := .transform, label := "Transform", category := .data
      description := "Computes a value from its input with a script"
      attributes := [
        editable "mode" "Mode" (.select ["expression", "function"]),
        editable "source" "Script" .code]
      inputs := [flowIn], outputs := fun _ => [flowOut] }
  | .getVariable =>
    { type := .getVariable, label := "Get Variable", category := .variables
      description := "Reads a run variable"
      attributes := [
        editable "path" "Path" .text,
        { editable "defaultValue" "Default" .json with visible := hasPath }]
      inputs := [flowIn], outputs := fun _ => [flowOut] }
  | .setVariable =>
    { type := .setVariable, label := "Set Variable", category := .variables
      description := "Writes a run variable"
      attributes := [editable "path" "Path" .text, editable "expression" "Value" .code]
      inputs := [flowIn, .optional PortId.value "Value" .data], outputs := fun _ => [flowOut] }
  | .contextMessage =>
    { type := .contextMessage, label := "Context Message", category := .ai
      description := "Adds a fragment to the model context"
      attributes := [
        editable "role" "Role" (.select ["system", "user", "assistant"]),
        editable "text" "Text" .multiline,
        editable "priority" "Priority" (number none none)]
      inputs := [flowIn], outputs := fun _ => [flowOut] }
  | .randomizer => provider .randomizer "Randomizer" "Lets the model draw a random choice"
      [editable "toolName" "Tool name" .text, editable "description" "Description" .multiline,
        editable "choices" "Choices" .stringList] false
  | .retrieval => provider .retrieval "Retrieval" "Lets the model search a knowledge store"
      [editable "storeId" "Knowledge store" .text,
        editable "topK" "Results per query" (number (some 1) none),
        editable "maxQueries" "Max queries" (number (some 1) none),
        editable "guidance" "Query guidance" .multiline] true
  | .documentReader =>
      provider .documentReader "Document Reader" "Lets the model read attached documents"
      [editable "documents" "Documents" .json,
        editable "maxChars" "Max characters" (number (some 1) none)] false
  | .globalState =>
      provider .globalState "Global State" "Lets the model read and write run variables"
      [editable "allowWrite" "Allow writes" .boolean, editable "scope" "Path scope" .text] false

theorem type_definitionOf (t : NodeType) : (definitionOf t).type = t := by cases t <;> rfl

/-- The inputs of a node. -/
def Node.inputPorts (n : Node) : List Port := (definitionOf n.type).inputs

/-- The outputs of a node. -/
def Node.outputPorts (n : Node) : List Port := (definitionOf n.type).outputs n.data.body

/-! ## 4. Lists of definitions -/

namespace Definition

/-- Every definition. -/
def catalogue : List Definition := NodeType.all.map definitionOf

/-- The definitions that an author may add, by label. -/
def creatableByLabel : List Definition :=
  (catalogue.filter (·.creatable)).mergeSort fun a b => a.label ≤ b.label

/-- The definitions whose number of instances is bounded. -/
def bounded : List Definition := catalogue.filter (·.instances.isSome)

end Definition

/-- The data of a new node with a body. -/
def NodeData.ofBody (body : NodeBody) : NodeData :=
  { title := (definitionOf body.nodeType).label, body }

/-- The data of a new node of a type. -/
def NodeData.initial (t : NodeType) : NodeData := .ofBody (.initial t)

/-! ## 5. Descriptions -/

/-- A definition as seen for one instance. -/
structure Descriptor where
  type : NodeType
  label : String
  category : Category
  description : String
  attributes : List Attribute
  inputs : List Port
  outputs : List Port
  deriving DecidableEq, Inhabited

/-- The description for an instance with a body: its visible attributes and its own outputs. -/
def Definition.describe (d : Definition) (body : NodeBody) : Descriptor :=
  { type := d.type, label := d.label, category := d.category, description := d.description
    attributes := (d.attributes.filter (·.visible body)).map (·.toAttribute)
    inputs := d.inputs, outputs := d.outputs body }

/-! ## 6. As documents -/

open Json (Decoder fields? tagged? noFields)

namespace Category

def table : List (String × Category) :=
  [("control", .control), ("ai", .ai), ("data", .data), ("variables", .variables),
    ("tools", .tools)]

def name : Category → String
  | .control => "control"
  | .ai => "ai"
  | .data => "data"
  | .variables => "variables"
  | .tools => "tools"

def decode : Decoder Category := Decoder.choice table

def encode (c : Category) : Json := .string c.name

end Category

namespace AttributeKind

def names : List String :=
  ["text", "multiline", "code", "boolean", "number", "select", "string_list", "json"]

def decode : Decoder AttributeKind := fun s d => do
  let (name, others) ← tagged? "kind" names s d
  match name with
  | "text" => (noFields others).map fun _ => .text
  | "multiline" => (noFields others).map fun _ => .multiline
  | "code" => (noFields others).map fun _ => .code
  | "boolean" => (noFields others).map fun _ => .boolean
  | "number" => do
    let [min, max] ← fields? ["min", "max"] others | none
    return .number (← min.nullable .real .held) (← max.nullable .real .held)
  | "select" => do
    let [options] ← fields? ["options"] others | none
    return .select (← options.required (.list .string) .held)
  | "string_list" => (noFields others).map fun _ => .stringList
  | "json" => (noFields others).map fun _ => .json
  | _ => none

def encode : AttributeKind → Json
  | .text => .ofMembers [("kind", .string "text")]
  | .multiline => .ofMembers [("kind", .string "multiline")]
  | .code => .ofMembers [("kind", .string "code")]
  | .boolean => .ofMembers [("kind", .string "boolean")]
  | .number min max => .ofMembers
    [("kind", .string "number"), ("min", .ofOption .ofReal min), ("max", .ofOption .ofReal max)]
  | .select options => .ofMembers [("kind", .string "select"), ("options", .ofStrings options)]
  | .stringList => .ofMembers [("kind", .string "string_list")]
  | .json => .ofMembers [("kind", .string "json")]

end AttributeKind

namespace Attribute

def decode : Decoder Attribute := fun s d => do
  let [key, label, kind] ← fields? ["key", "label", "kind"] d | none
  return {
    key := ← key.required .string s
    label := ← label.required .string s
    kind := ← kind.required AttributeKind.decode s }

def encode (a : Attribute) : Json :=
  .ofMembers [("key", .string a.key), ("label", .string a.label), ("kind", a.kind.encode)]

end Attribute

namespace Descriptor

def decode : Decoder Descriptor := fun s d => do
  let [type, label, category, description, attributes, inputs, outputs] ← fields?
    ["nodeType", "label", "category", "description", "attributes", "inputs", "outputs"] d | none
  return {
    type := ← type.required NodeType.decode s
    label := ← label.required .string s
    category := ← category.required Category.decode s
    description := ← description.required .string s
    attributes := ← attributes.required (.list Attribute.decode) s
    inputs := ← inputs.required (.list Port.decode) s
    outputs := ← outputs.required (.list Port.decode) s }

def encode (d : Descriptor) : Json := .ofMembers
  [("nodeType", d.type.encode), ("label", .string d.label), ("category", d.category.encode),
    ("description", .string d.description), ("attributes", .ofList Attribute.encode d.attributes),
    ("inputs", .ofList Port.encode d.inputs), ("outputs", .ofList Port.encode d.outputs)]

end Descriptor

end Workgraph
