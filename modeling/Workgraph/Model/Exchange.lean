import Workgraph.Model.Usage
import Workgraph.Role
import Workgraph.Width

/-!
# Exchanges with the model

A request holds the messages so far and the tools on offer; a response holds the assistant's text,
the tool calls it asks for, and the usage that the provider reports. A response may also arrive in
chunks.
-/

namespace Workgraph

open Json (Decoder fields?)

/-! ## 1. Tools -/

/-- A tool as it is offered to the model. -/
structure ToolDefinition where
  name : String
  description : String
  /-- The schema of its arguments. -/
  parameters : Json
  deriving DecidableEq, Inhabited

namespace ToolDefinition

def decode : Decoder ToolDefinition := fun s d => do
  let [name, description, parameters] ← fields? ["name", "description", "parameters"] d | none
  return {
    name := ← name.required .string s
    description := ← description.required .string s
    parameters := ← parameters.required .value s }

def encode (t : ToolDefinition) : Json := .ofMembers
  [("name", .string t.name), ("description", .string t.description), ("parameters", t.parameters)]

end ToolDefinition

/-- A tool call that the model asks for. -/
structure ToolCall where
  /-- Echoed back with the result. -/
  id : String
  name : String
  arguments : Json
  deriving DecidableEq, Inhabited

namespace ToolCall

def decode : Decoder ToolCall := fun s d => do
  let [id, name, arguments] ← fields? ["id", "name", "arguments"] d | none
  return {
    id := ← id.required .string s
    name := ← name.required .string s
    arguments := ← arguments.required .value s }

def encode (c : ToolCall) : Json :=
  .ofMembers [("id", .string c.id), ("name", .string c.name), ("arguments", c.arguments)]

end ToolCall

/-! ## 2. Requests -/

/-- One message of a request. -/
structure Message where
  role : Role
  content : String
  /-- The calls of an assistant message. -/
  toolCalls : List ToolCall := []
  /-- The call that a tool message answers. -/
  toolCallId : Option String := none
  deriving DecidableEq, Inhabited

namespace Message

def decode : Decoder Message := fun s d => do
  let [role, content, toolCalls, toolCallId] ←
    fields? ["role", "content", "toolCalls", "toolCallId"] d | none
  return {
    role := ← role.required Role.decode s
    content := ← content.required .string s
    toolCalls := ← toolCalls.getD (.list ToolCall.decode) [] s
    toolCallId := ← toolCallId.omittable .string s }

/-- The list under a key, left out when it is empty. -/
def nonEmpty (key : String) (encode : α → Json) (as : List α) : List (String × Json) :=
  if as.isEmpty then [] else [(key, .ofList encode as)]

def encode (m : Message) : Json :=
  .ofMembers ([("role", m.role.encode), ("content", .string m.content)]
    ++ nonEmpty "toolCalls" ToolCall.encode m.toolCalls
    ++ Json.present "toolCallId" .string m.toolCallId)

end Message

structure CompletionRequest where
  model : String
  messages : List Message
  tools : List ToolDefinition := []
  temperature : Option Binary64 := none
  maxTokens : Option Nat := none
  stream : Bool
  deriving DecidableEq, Inhabited

namespace CompletionRequest

def decode : Decoder CompletionRequest := fun s d => do
  let [model, messages, tools, temperature, maxTokens, stream] ←
    fields? ["model", "messages", "tools", "temperature", "maxTokens", "stream"] d | none
  return {
    model := ← model.required .string s
    messages := ← messages.required (.list Message.decode) s
    tools := ← tools.getD (.list ToolDefinition.decode) [] s
    temperature := ← temperature.omittable .real s
    maxTokens := ← maxTokens.omittable (.natural Width.natural32) s
    stream := ← stream.required .bool s }

def encode (r : CompletionRequest) : Json :=
  .ofMembers ([("model", .string r.model), ("messages", .ofList Message.encode r.messages),
    ("stream", .bool r.stream)]
    ++ Message.nonEmpty "tools" ToolDefinition.encode r.tools
    ++ Json.present "temperature" .ofReal r.temperature
    ++ Json.present "maxTokens" .ofNat r.maxTokens)

end CompletionRequest

/-! ## 3. Responses -/

structure CompletionResponse where
  content : String := ""
  toolCalls : List ToolCall := []
  usage : Option Usage := none
  deriving DecidableEq, Inhabited

namespace CompletionResponse

def decode : Decoder CompletionResponse := fun s d => do
  let [content, toolCalls, usage] ← fields? ["content", "toolCalls", "usage"] d | none
  return {
    content := ← content.required .string s
    toolCalls := ← toolCalls.getD (.list ToolCall.decode) [] s
    usage := ← usage.omittable Usage.decode s }

def encode (r : CompletionResponse) : Json := .ofMembers
  [("content", .string r.content), ("toolCalls", .ofList ToolCall.encode r.toolCalls),
    ("usage", .ofOption Usage.encode r.usage)]

end CompletionResponse

/-- A piece of a response. -/
inductive Chunk where
  /-- Further assistant text. -/
  | text (text : String)
  /-- A whole tool call. -/
  | toolCall (call : ToolCall)
  /-- The usage of the whole response. -/
  | usage (usage : Usage)
  deriving DecidableEq, Inhabited

/-- A response with one more piece. -/
def CompletionResponse.add (r : CompletionResponse) : Chunk → CompletionResponse
  | .text t => { r with content := r.content ++ t }
  | .toolCall c => { r with toolCalls := r.toolCalls ++ [c] }
  | .usage u => { r with usage := some u }

end Workgraph
