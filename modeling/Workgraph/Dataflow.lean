import Workgraph.Graph.Wiring
import Workgraph.Run.State
import Workgraph.Script.Engine

/-!
# Values on demand

The nodes on the chain of control leave their outputs in the state. Pure nodes are never scheduled:
their value is computed when something reads a port wired to them, and remembered.

* `Resolver.value?` is the value that a node provides at a state: the recorded output of a node on
  the chain, the computed one of a pure node. A pure node that is not wired reads the payload, a
  wired one the value of the node behind it. A node that is met again on the way provides nothing.
* A remembered value is used again when the node's body, its input and the generation of the
  variables are what they were (`Memo`).
* The resolver counts how often it used and computed values, and keeps the lines that scripts logged
  until someone takes them (`takeLogs`).
-/

namespace Workgraph

/-- A computed value, with all that it was computed from as far as it counts. -/
structure Memo where
  body : NodeBody
  input : Json
  generation : Nat
  value : Json
  deriving DecidableEq, Inhabited

structure Resolver where
  /-- The remembered values, by node id. -/
  memos : Keyed Memo := []
  hits : Nat := 0
  misses : Nat := 0
  /-- Lines that scripts logged and nobody has taken yet. -/
  logs : List String := []
  deriving DecidableEq, Inhabited

/-- What a script sees at a state, with its input. -/
def ScriptView.ofState (s : RunState) (input : Json) : ScriptView :=
  { input, vars := s.vars, messages := .ofList Turn.encode s.conversation
    contextMessages := .ofList Fragment.encode s.context }

/-- The variable that a node reads, or what stands for it. -/
def GetVariableBody.valueAt (b : GetVariableBody) (s : RunState) (path : String) : Json :=
  ((s.getVar? path).or b.defaultValue).getD .null

/-- The value that a script gives, null when it fails. -/
def ScriptOutcome.valueOrNull (o : ScriptOutcome) : Json :=
  match o.error with
  | some _ => .null
  | none => o.value

/-- What a pure node gives for an input, and the lines that its script logs; a script that fails
gives null. -/
def NodeBody.evaluate (e : ScriptEngine) (s : RunState) (input : Json) :
    NodeBody → Json × List String
  | .getVariable b => (b.valueAt s b.path, [])
  | .transform b =>
    let outcome := e.run b.mode b.source (.ofState s input)
    (outcome.valueOrNull, outcome.logs)
  | _ => (.null, [])

namespace Resolver

/-- Whether a remembered value is still good. -/
def isFit (m : Memo) (body : NodeBody) (input : Json) (generation : Nat) : Bool :=
  decide (m.body = body ∧ m.input = input ∧ m.generation = generation)

/-- The remembered value of a node, if it is still good. -/
def stored? (r : Resolver) (id : String) (body : NodeBody) (input : Json) (generation : Nat) :
    Option Json :=
  match r.memos.get? id with
  | some m => if isFit m body input generation then some m.value else none
  | none => none

/-- The value of a pure node for an input: remembered, or computed and remembered. -/
def valueFor (e : ScriptEngine) (s : RunState) (n : Node) (input : Json) : StateM Resolver Json :=
  fun r =>
    match r.stored? n.id n.data.body input s.generation with
    | some v => (v, { r with hits := r.hits + 1 })
    | none =>
      let (value, logs) := n.data.body.evaluate e s input
      let memo : Memo := { body := n.data.body, input, generation := s.generation, value }
      (value,
        { memos := r.memos.set n.id memo, hits := r.hits, misses := r.misses + 1
          logs := r.logs ++ logs })

/-- The value that a node provides, where `met` are the nodes on the way to it. -/
def valueAfter? (e : ScriptEngine) (g : Graph) (s : RunState) :
    Nat → List String → String → StateM Resolver (Option Json)
  | 0, _, _ => return none
  | fuel + 1, met, id =>
    if id ∈ met then return none
    else match g.findNode? id with
      | none => return none
      | some n =>
        if n.type.isPure then do
          let input ← match g.edgeInto? id PortId.input with
            | some edge => do
              pure ((← valueAfter? e g s fuel (id :: met) edge.source).getD .null)
            | none => pure s.payload
          return (← valueFor e s n input).nonNull?
        else return s.outputs.get? id

/-- The value that a node provides, or nothing for null. Every node on the way is another one, so
their number bounds the way. -/
def value? (e : ScriptEngine) (g : Graph) (s : RunState) (id : String) :
    StateM Resolver (Option Json) :=
  valueAfter? e g s (g.nodes.length + 1) [] id

/-- The value that flows into a port, or nothing when the port is not wired. -/
def input? (e : ScriptEngine) (g : Graph) (s : RunState) (id port : String) :
    StateM Resolver (Option Json) :=
  match g.edgeInto? id port with
  | some edge => value? e g s edge.source
  | none => return none

/-- Forgets every value. -/
def forget (r : Resolver) : Resolver := { r with memos := [] }

/-- The lines that scripts logged since they were last taken. -/
def takeLogs : StateM Resolver (List String) := fun r => (r.logs, { r with logs := [] })

end Resolver

/-- Whether an edge is wired into a port. -/
def Graph.isWired (g : Graph) (id port : String) : Bool := (g.edgeInto? id port).isSome

end Workgraph
