import Workgraph.Dataflow
import Workgraph.Run.Host
import Workgraph.Settings

/-!
# Sessions

What stays the same during a run is its `Frame`; what changes is its `Session`: the state, the
resolver and the world of the host. An `Exec` is a step on the session that may fail; the session is
kept in both cases.
-/

namespace Workgraph

/-- What stays the same during a run. -/
structure Frame (σ : Type) where
  graph : Graph
  engine : ScriptEngine
  settings : Settings
  host : Host σ
  executionId : String

/-- What changes during a run. -/
structure Session (σ : Type) where
  state : RunState
  resolver : Resolver := {}
  world : σ

/-- A step of a run. -/
abbrev Exec (σ : Type) := EStateM Fault (Session σ)

namespace Exec

variable {σ : Type}

/-! ## 1. State and world -/

def state : Exec σ RunState := return (← get).state

def changeState (f : RunState → RunState) : Exec σ Unit :=
  modify fun s => { s with state := f s.state }

/-- Asks the host. -/
def ask (service : σ → α × σ) : Exec σ α := do
  let s ← get
  let (a, world) := service s.world
  set { s with world }
  return a

def changeWorld (f : σ → σ) : Exec σ Unit := modify fun s => { s with world := f s.world }

/-- The answer that a wait for a service ends with; an interruption cancels the run. -/
def await (service : σ → Arrival α × σ) : Exec σ α := do
  match ← ask service with
  | .answered (.ok a) => return a
  | .answered (.error f) => throw f
  | .interrupted => throw .cancelled

/-- A result that may be a fault. -/
def ofExcept : Except Fault α → Exec σ α
  | .ok a => return a
  | .error f => throw f

/-! ## 2. Events and cancellation -/

/-- Hands an event to the host. -/
def emit (c : Frame σ) (h : Happening) : Exec σ Unit :=
  changeWorld (c.host.deliver { executionId := c.executionId, happening := h })

def trace (c : Frame σ) (message : String) : Exec σ Unit := emit c (.trace message)

/-- Fails when the run was cancelled. -/
def checkCancelled (c : Frame σ) : Exec σ Unit := do
  if c.host.cancelled (← get).world then throw .cancelled

/-! ## 3. Scripts and values -/

/-- Tells the host a line that a script logged. -/
def traceLogs (c : Frame σ) : List String → Exec σ Unit
  | [] => return
  | line :: lines => do
    trace c ("log: " ++ line)
    traceLogs c lines

/-- Runs a script over the payload and gives its value. -/
def script (c : Frame σ) (mode : ScriptMode) (source : String) : Exec σ Json := do
  let s ← state
  let outcome := c.engine.run mode source (.ofState s s.payload)
  traceLogs c outcome.logs
  ofExcept outcome.result

/-- Reads values on demand, and tells the host what their scripts logged. -/
def read (c : Frame σ) (act : StateM Resolver α) : Exec σ α := do
  let s ← get
  let (a, resolver) := act s.resolver
  let (logs, resolver) := Resolver.takeLogs resolver
  set { s with resolver }
  traceLogs c logs
  return a

/-- Forgets the values that were read. -/
def forget : Exec σ Unit := modify fun s => { s with resolver := s.resolver.forget }

end Exec

end Workgraph
