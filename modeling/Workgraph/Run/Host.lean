import Workgraph.Fault
import Workgraph.Model.Exchange
import Workgraph.Model.Passage
import Workgraph.Run.Event

/-!
# Hosts

A run goes on inside a host: it delivers events, may be cancelled by it at any moment, and asks it
for what it cannot do itself. All that a host remembers is its world, a value of any type `σ`; each
service is a function of the world that also gives the next one.

* A service that takes time ends in an `Arrival`: an answer, or an interruption when the host was
  cancelled first. When both happen at once, the host decides which.
* A model may answer in pieces (`Reply.pieces`): they arrive one by one, and before each of them,
  and before the end, the host may interrupt. A reply that is not closed never ends by itself.
* What a host does not supply is `none`.
-/

namespace Workgraph

/-- How a wait for a service ends. -/
inductive Arrival (α : Type) where
  | answered (result : Except Fault α)
  | interrupted

/-- How a model answers. -/
inductive Reply where
  | whole (response : CompletionResponse)
  /-- Pieces that arrive one by one; unless `closed`, nothing follows the last one, not even the
  end. -/
  | pieces (items : List (Except Fault Chunk)) (closed : Bool)

structure Host (σ : Type) where
  /-- Whether the run was cancelled. -/
  cancelled : σ → Bool
  /-- Hands over an event; a failure to do so is the host's own concern. -/
  deliver : RunEvent → σ → σ
  /-- Asks the model. -/
  completion : Option (CompletionRequest → σ → Arrival Reply × σ) := none
  /-- Whether the wait for the next piece of a reply is interrupted. -/
  interrupts : σ → Bool × σ
  /-- Waits for a piece that never comes. -/
  lapse : σ → σ
  /-- Searches a knowledge store. -/
  retrieval : Option (Search → σ → Arrival (List Passage) × σ) := none
  /-- Records usage. -/
  usage : Option (UsageRecord → σ → Except Fault Unit × σ) := none
  /-- Draws a number below another one. -/
  draw : Nat → σ → Nat × σ

end Workgraph
