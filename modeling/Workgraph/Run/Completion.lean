import Workgraph.Tools.Call

/-!
# Asking the model

A completion node asks the model for the next turn of the assistant, and lets it call tools on the
way:

* the messages begin with the system prompt, the context and the conversation; the payload is the
  user's turn (`openingMessages`);
* in each round one request is sent; when the reply asks for tools, they are called in order, each
  is answered by one message, and another round follows;
* tools are on offer in all rounds but the last, whose reply is final whatever it asks for.

Nothing but variables, context and the resolver changes before the last reply: the payload and the
conversation are written at the end. Usage is summed over all rounds and reported once.
-/

namespace Workgraph

open Tools

/-! ## 1. Messages -/

/-- The payload as the text of the user; null is no text. -/
def Json.asPrompt : Json → String
  | .null => ""
  | .string s => s
  | v => v.compact

/-- The turn of the user, unless there is no text. -/
def userMessages (text : String) : List Message :=
  if text.isEmpty then [] else [{ role := .user, content := text }]

namespace CompletionBody

/-- The messages of the first request. -/
def openingMessages (b : CompletionBody) (s : RunState) (text : String) : List Message :=
  (if Text.isAllBlank b.systemPrompt then [] else [{ role := .system, content := b.systemPrompt }])
    ++ s.context.map (fun f => { role := f.role, content := f.text })
    ++ s.conversation.map (fun t =>
      { role := t.role, content := t.content, toolCallId := t.toolCallId })
    ++ userMessages text

/-- A request with some messages and tools. -/
def request (b : CompletionBody) (messages : List Message) (tools : List ToolDefinition) :
    CompletionRequest :=
  { model := b.model, messages, tools, temperature := b.temperature, maxTokens := b.maxTokens
    stream := b.stream }

end CompletionBody

/-- The message of the assistant that asked for tools. -/
def CompletionResponse.message (r : CompletionResponse) : Message :=
  { role := .assistant, content := r.content, toolCalls := r.toolCalls }

/-- The message that answers a tool call. -/
def ToolCall.answer (call : ToolCall) (result : Json) : Message :=
  { role := .tool, content := result.compact, toolCallId := some call.id }

/-- A total with one more report, if there is one. -/
def Usage.tally (total : Option Usage) : Option Usage → Option Usage
  | none => total
  | some u => some ((total.getD {}).add u)

namespace Exec

variable {σ : Type}

/-! ## 2. Replies -/

/-- Tells the host about further text of the assistant. -/
def delta (c : Frame σ) (nodeId text : String) : Exec σ Unit := emit c (.assistantDelta nodeId text)

/-- Takes the pieces of a reply as they arrive. -/
def takePieces (c : Frame σ) (nodeId : String) (closed : Bool) :
    List (Except Fault Chunk) → CompletionResponse → Exec σ CompletionResponse
  | [], r => do
    if closed then
      if ← ask c.host.interrupts then throw .cancelled else return r
    else
      changeWorld c.host.lapse
      throw .cancelled
  | item :: items, r => do
    if ← ask c.host.interrupts then throw .cancelled
    else
      let chunk ← ofExcept item
      if let .text t := chunk then delta c nodeId t
      takePieces c nodeId closed items (r.add chunk)

/-- The response that a reply amounts to. -/
def takeReply (c : Frame σ) (nodeId : String) : Reply → Exec σ CompletionResponse
  | .whole r => do
    if !r.content.isEmpty then delta c nodeId r.content
    return r
  | .pieces items closed => takePieces c nodeId closed items {}

/-! ## 3. Rounds -/

/-- What answers a tool call. -/
def answerCall (c : Frame σ) (nodeId : String) (tools : ToolSet) (call : ToolCall) :
    Exec σ Message := do
  checkCancelled c
  trace c ("'" ++ nodeId ++ "' calls tool '" ++ call.name ++ "'")
  match tools.find? call.name with
  | some b => return call.answer (← callTool c b call.arguments)
  | none => return call.answer (refusal ("unknown tool '" ++ call.name ++ "'"))

/-- What answers some tool calls, in order. -/
def answerCalls (c : Frame σ) (nodeId : String) (tools : ToolSet) :
    List ToolCall → Exec σ (List Message)
  | [] => return []
  | call :: calls => do
    let m ← answerCall c nodeId tools call
    return m :: (← answerCalls c nodeId tools calls)

/-- What a completion node is working with. -/
structure Exchange (σ : Type) where
  nodeId : String
  body : CompletionBody
  tools : ToolSet
  complete : CompletionRequest → σ → Arrival Reply × σ

/-- Sends one request and takes the reply. -/
def askModel (c : Frame σ) (x : Exchange σ) (messages : List Message)
    (tools : List ToolDefinition) : Exec σ CompletionResponse := do
  checkCancelled c
  let reply ← await (x.complete (x.body.request messages tools))
  takeReply c x.nodeId reply

/-- The rounds from now on, of which so many may offer tools: the final text and the usage. -/
def rounds (c : Frame σ) (x : Exchange σ) :
    Nat → List Message → Option Usage → Exec σ (String × Option Usage)
  | 0, messages, usage => do
    let r ← askModel c x messages []
    return (r.content, Usage.tally usage r.usage)
  | left + 1, messages, usage => do
    let r ← askModel c x messages x.tools.definitions
    let usage := Usage.tally usage r.usage
    if r.toolCalls.isEmpty then return (r.content, usage)
    else
      let answers ← answerCalls c x.nodeId x.tools r.toolCalls
      rounds c x left (messages ++ r.message :: answers) usage

/-! ## 4. The node -/

/-- Adds the fragments that the context does not hold yet. -/
def addGuidance (fragments : List Fragment) : Exec σ Unit :=
  changeState fun s => fragments.foldl
    (fun s f => if f ∈ s.context then s else s.pushContext f) s

/-- Reports usage to the host, as an event and to its sink. -/
def reportUsage (c : Frame σ) (nodeId model : String) : Option Usage → Exec σ Unit
  | none => return
  | some usage => do
    emit c (.usage nodeId model usage)
    match c.host.usage with
    | some record => do ofExcept (← ask (record { model, usage }))
    | none => return

/-- Asks the model for the next turn, which becomes the payload. -/
def complete (c : Frame σ) (nodeId : String) (b : CompletionBody) : Exec σ Unit := do
  match c.host.completion with
  | none => throw (.missing .completion)
  | some service =>
    let s ← state
    let tools ← ofExcept
      (← read c (collect c.engine c.graph s c.settings.context nodeId))
    addGuidance tools.context
    if !tools.tools.isEmpty then
      trace c ("'" ++ nodeId ++ "' offers " ++ toString tools.tools.length ++ " tool(s)")
    let s ← state
    let prompt := s.payload.asPrompt
    let limit := b.maxToolRounds.getD c.settings.completion.maxToolRounds
    let (text, usage) ← rounds c { nodeId, body := b, tools, complete := service } limit
      (b.openingMessages s prompt) none
    changeState fun s =>
      { s with
        conversation := s.conversation
          ++ (if prompt.isEmpty then [] else [{ role := .user, content := prompt }])
          ++ [{ role := .assistant, content := text }]
        payload := .string text }
    reportUsage c nodeId b.model usage

end Exec

end Workgraph
