import Workgraph.Json.Printer
import Workgraph.Run.Session
import Workgraph.Tools.Offer

/-!
# Tool calls

What a provider does for the model. Bad arguments are told to the model as an object with an
`error`; a fault of the host, a host that lacks the knowledge store and a cancellation fail the
call.

* `DocumentReaderBody.read` gives an attached document, cut to its first characters;
* `GlobalStateBody.call` reads and writes variables under the provider's scope; a write makes all
  values stale;
* `Exec.search` searches the knowledge store and puts what it finds into the context;
* `Exec.draw` picks one of some choices.
-/

namespace Workgraph

namespace Tools

/-- A result that tells the model what was wrong. -/
def refusal (message : String) : Json := .ofMembers [("error", .string message)]

/-- The text of an argument. -/
def textArgument? (args : Json) (key : String) : Option String :=
  (args.member? key).bind Json.asString?

end Tools

open Tools

/-! ## 1. Documents -/

namespace DocumentReaderBody

/-- The document that the arguments ask for. -/
def read (b : DocumentReaderBody) (args : Json) : Json :=
  match textArgument? args "id" with
  | none => refusal "missing 'id'"
  | some id =>
    match b.documents.find? fun d => d.id = id with
    | none => refusal ("unknown document '" ++ id ++ "'")
    | some d => .ofMembers
      [("id", .string d.id), ("title", .string d.title),
        ("text", .string (String.ofList (d.text.toList.take b.maxChars))),
        ("truncated", .bool (b.maxChars < d.text.length))]

end DocumentReaderBody

/-! ## 2. Variables -/

namespace GlobalStateBody

/-- A path under the provider's scope. -/
def scopedPath (b : GlobalStateBody) (path : String) : String :=
  let scope := Text.trimEndOf '.' (Text.trim b.scope)
  if scope.isEmpty then path else scope ++ "." ++ path

/-- The result of a call, and the state after it if it wrote. -/
def call (b : GlobalStateBody) (args : Json) (s : RunState) : Json × Option RunState :=
  match textArgument? args "path" with
  | none => (refusal "missing 'path'", none)
  | some path =>
    let path := b.scopedPath path
    match textArgument? args "action" with
    | some "get" => (.ofMembers [("value", (s.getVar? path).getD .null)], none)
    | some "set" =>
      if b.allowWrite then
        match s.setVar path ((args.member? "value").getD .null) with
        | .ok s => (.ofMembers [("ok", .bool true)], some s)
        | .error f => (refusal f.message, none)
      else (refusal "writes are not allowed", none)
    | _ => (refusal "'action' must be 'get' or 'set'", none)

end GlobalStateBody

/-! ## 3. Searches -/

namespace RetrievalBody

/-- The queries in the arguments: texts that are not blank, trimmed, as many as a call may hold. -/
def queries (b : RetrievalBody) (args : Json) : List String :=
  let given : List String := match args.member? "queries" with
    | some (.array items) => items.filterMap Json.asString?
    | some (.string q) => [q]
    | _ => []
  ((given.map Text.trim).filter fun q => !q.isEmpty).take b.queryBound

/-- The search for some queries. -/
def search (b : RetrievalBody) (queries : List String) : Search :=
  { queries, storeId := b.storeId, topK := max b.topK 1 }

end RetrievalBody

/-- The fragment that a passage becomes. -/
def Passage.fragment (p : Passage) (priority : Int) (nodeId : String) : Fragment :=
  { role := .system, text := "[" ++ p.citation.heading ++ "] " ++ p.text, priority
    sourceNodeId := some nodeId, synthesized := true }

namespace Exec

variable {σ : Type}

/-- Searches the knowledge store of a provider and adds what it finds to the context. -/
def search (c : Frame σ) (nodeId : String) (b : RetrievalBody) (args : Json) : Exec σ Json := do
  match b.queries args with
  | [] => return refusal "provide at least one query"
  | queries =>
    match c.host.retrieval with
    | none => throw (.missing .retrieval)
    | some retrieve =>
      checkCancelled c
      let passages ← await (retrieve (b.search queries))
      let priority := c.settings.context.fragmentPriority
      changeState fun s => passages.foldl (fun s p => s.pushContext (p.fragment priority nodeId)) s
      return .ofMembers [("results", .ofList Passage.encode passages)]

/-- Picks one of some choices. -/
def draw (c : Frame σ) (b : RandomizerBody) : Exec σ Json := do
  if b.choices.isEmpty then return refusal "no choices configured"
  else
    let i ← ask (c.host.draw b.choices.length)
    return match b.choices[i]? with
      | some choice => .ofMembers [("choice", .string choice)]
      | none => refusal "no choices configured"

/-- Reads or writes variables. -/
def useState (b : GlobalStateBody) (args : Json) : Exec σ Json := do
  match b.call args (← state) with
  | (result, none) => return result
  | (result, some s) =>
    changeState fun _ => s
    forget
    return result

/-- The result of a call of a tool with some arguments. -/
def callTool (c : Frame σ) (b : ToolBinding) (args : Json) : Exec σ Json := do
  match c.graph.findNode? b.providerId with
  | none => return refusal ("provider '" ++ b.providerId ++ "' no longer exists")
  | some n =>
    match n.data.body with
    | .randomizer b => draw c b
    | .documentReader b => return b.read args
    | .globalState b => useState b args
    | .retrieval b => search c n.id b args
    | _ => return refusal ("'" ++ n.id ++ "' is not a tool provider")

end Exec

end Workgraph
