import Workgraph.Run.Host

/-!
# Rehearsals

A host that plays its part from a list of cues, for trying out a graph without a model or a
knowledge store. It keeps every event, request, search and usage record.

* The model and the knowledge store answer from their lists in order; when a list is used up, the
  answer is a fault.
* A cue can cancel the run: before it answers, or in place of an answer. The run is also cancelled
  when an event with given members is delivered (`cancelOn`).
* Draws always pick the first choice.
-/

namespace Workgraph

/-- What the model does when it is asked. -/
inductive ModelCue where
  | whole (response : CompletionResponse)
  | pieces (items : List (Except Fault Chunk))
  /-- Pieces, then the run is cancelled and nothing more arrives. -/
  | stall (items : List (Except Fault Chunk))
  | fail (f : Fault)
  /-- The run is cancelled and nothing arrives. -/
  | hang

/-- What the knowledge store does when it is searched. -/
inductive StoreCue where
  | results (passages : List Passage)
  | fail (f : Fault)
  /-- The run is cancelled and nothing arrives. -/
  | stall

/-- The world of a rehearsal: what was cancelled and kept so far, and the cues that are left. -/
structure Rehearsal where
  cancelled : Bool := false
  /-- Members of an event; the run is cancelled while one that has them all is delivered. -/
  cancelOn : Option (List (String × Json)) := none
  /-- What the model does, each with whether the run is cancelled first. -/
  model : List (Bool × ModelCue) := []
  store : List StoreCue := []
  /-- What recording usage fails with. -/
  usageFault : Option Fault := none
  /-- Latest first, as are the three lists below. -/
  events : List RunEvent := []
  requests : List CompletionRequest := []
  searches : List Search := []
  records : List UsageRecord := []

namespace Rehearsal

/-- Whether an event has all members of a list. -/
def hasMembers (members : List (String × Json)) (e : RunEvent) : Bool :=
  let v := e.encode
  members.all fun (k, w) => decide (v.member? k = some w)

def deliver (e : RunEvent) (r : Rehearsal) : Rehearsal :=
  { r with
    events := e :: r.events
    cancelled := r.cancelled || r.cancelOn.any fun members => hasMembers members e }

def cancel (r : Rehearsal) : Rehearsal := { r with cancelled := true }

/-- Plays the next cue of the model. -/
def complete (request : CompletionRequest) (r : Rehearsal) : Arrival Reply × Rehearsal :=
  let r := { r with requests := request :: r.requests }
  match r.model with
  | [] => (.answered (.error (.completion "no scripted reply left")), r)
  | (cancels, cue) :: model =>
    let r := { r with model, cancelled := r.cancelled || cancels }
    match cue with
    | .whole response => (.answered (.ok (.whole response)), r)
    | .pieces items => (.answered (.ok (.pieces items true)), r)
    | .stall items => (.answered (.ok (.pieces items false)), r)
    | .fail f => (.answered (.error f), r)
    | .hang => (.interrupted, r.cancel)

/-- Plays the next cue of the knowledge store. -/
def retrieve (search : Search) (r : Rehearsal) : Arrival (List Passage) × Rehearsal :=
  let r := { r with searches := search :: r.searches }
  match r.store with
  | [] => (.answered (.error (.retrieval "no scripted results left")), r)
  | cue :: store =>
    let r := { r with store }
    match cue with
    | .results passages => (.answered (.ok passages), r)
    | .fail f => (.answered (.error f), r)
    | .stall => (.interrupted, r.cancel)

def recordUsage (record : UsageRecord) (r : Rehearsal) : Except Fault Unit × Rehearsal :=
  (match r.usageFault with
    | some f => .error f
    | none => .ok (), { r with records := record :: r.records })

/-- The host of a rehearsal, with those services that take part. -/
def host (hasModel hasStore hasUsage : Bool) : Host Rehearsal where
  cancelled r := r.cancelled
  deliver := deliver
  completion := if hasModel then some complete else none
  interrupts r := (r.cancelled, r)
  lapse := cancel
  retrieval := if hasStore then some retrieve else none
  usage := if hasUsage then some recordUsage else none
  draw _ r := (0, r)

end Rehearsal

end Workgraph
