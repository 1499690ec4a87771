import Mathlib.Data.List.Chain
import Workgraph.Proofs.Course
import Workgraph.Proofs.SoundRun

/-!
# What the host is told of a run

The events of a run tell its story from the start to the outcome: of each node in order, that it
began, what its executor told meanwhile, and unless the executor failed that it was finished.

* `Stay.story` lists the events of a stay.
* `Course.events` puts the stories of a course together, `Course.answered` and `Course.follows` say
  how one stay leads to the next, and `Course.last` where the run was left.
* `RunOutcome.Announced` says which event tells an outcome.
* `Narrated` is the account of the events of a whole run.

A host may do with an event what it likes, also fail to pass it on; its own concern is not part of
the run, and nothing is assumed about it.
-/

namespace Workgraph

open Exec

variable {σ : Type}

/-! ## 1. The story of a stay -/

namespace Stay

variable (c : Frame σ) (v : Stay (Record σ))

/-- The events that come from the executor of the node. -/
def told : List RunEvent := (v.inner c).filterMap Contact.event?

/-- The event that a node is finished; there is none if its executor failed. -/
def ending : List RunEvent :=
  match v.answer c.recorded with
  | .ok t => [c.event (.nodeFinished v.node.id v.node.type ((c.graph.next v.node t).1.map (·.id))
      t.stop (v.left c.recorded).state)]
  | .error _ => []

/-- The events of a stay. -/
def story : List RunEvent :=
  c.event (.nodeStarted v.node.id v.node.type v.node.displayName) :: v.told c ++ v.ending c

theorem filterMap_contacts : (v.contacts c).filterMap Contact.event? = v.story c := by
  have hexit : (v.exit c).filterMap Contact.event? = v.ending c := by
    unfold exit ending
    cases v.answer c.recorded <;> rfl
  unfold contacts story told
  rw [List.filterMap_append, hexit]
  rfl

/-- The executor of a node tells of that node, and never that a node or the run begins or ends. -/
theorem told_within {e : RunEvent} (h : e ∈ v.told c) :
    e.executionId = c.executionId ∧ e.happening.Within v.node.id := by
  obtain ⟨k, hk, hevent⟩ := List.mem_filterMap.mp h
  have hwithin := (v.work_contacts c).2.2 k hk
  unfold Contact.event? at hevent
  unfold Contact.Within at hwithin
  split at hevent
  · next e' hdeed =>
    cases hevent
    rw [hdeed] at hwithin
    exact hwithin
  · cases hevent

/-- No event of a stay ends the run. -/
theorem story_goesOn {e : RunEvent} (h : e ∈ v.story c) : e.happening.isTerminal = false := by
  rcases List.mem_append.mp h with h | h
  · rcases List.mem_cons.mp h with rfl | h
    · rfl
    · have hwithin := (v.told_within c h).2
      cases hhappening : e.happening with
      | runCompleted | runFailed | runCancelled =>
        rw [hhappening] at hwithin
        exact hwithin.elim
      | _ => rfl
  · unfold ending at h
    split at h
    · rw [List.mem_singleton.mp h]
      rfl
    · exact absurd h List.not_mem_nil

end Stay

/-! ## 2. The story of a course -/

namespace Course

variable {c : Frame σ} {left : Nat} {v : Stay (Record σ)} {vs : List (Stay (Record σ))}
  {o : RunOutcome} {s : Session (Record σ)}

theorem events (h : Course c.recorded left v vs o s) :
    s.world.events = v.reached.world.events ++ vs.flatMap (Stay.story c) := by
  unfold Record.events
  rw [h.contacts, List.filterMap_append, List.filterMap_flatMap]
  simp only [Stay.filterMap_contacts]

variable {d : Frame σ} {v : Stay σ} {vs : List (Stay σ)} {s : Session σ}

/-- A stay that is followed by another one. -/
def Follows (d : Frame σ) (v w : Stay σ) : Prop :=
  ∃ t, v.answer d = .ok t ∧ (d.graph.next v.node t).1 = some w.node ∧ w.reached = v.left d

/-- The stays begin with the one at which the course begins. -/
theorem head (h : Course d left v vs o s) {w : Stay σ} (hw : vs.head? = some w) : w = v := by
  cases h with
  | cancelled => cases hw
  | exhausted => cases hw
  | _ => exact (Option.some.inj hw).symm

/-- Every stay but the last is followed by the next one. -/
theorem follows (h : Course d left v vs o s) : vs.IsChain (Follows d) := by
  induction h with
  | cancelled => exact .nil
  | exhausted => exact .nil
  | failed => exact .singleton _
  | interrupted => exact .singleton _
  | ended => exact .singleton _
  | passes running answer runs next rest ih =>
    refine List.isChain_cons.mpr ⟨fun w hw => ?_, ih⟩
    obtain rfl := rest.head hw
    exact ⟨_, answer, congrArg Prod.fst next, rfl⟩

/-- The run is left where the last stay is left. -/
theorem last (h : Course d left v vs o s) : s = (vs.getLast?.map (Stay.left d)).getD v.reached := by
  induction h with
  | cancelled => rfl
  | exhausted => rfl
  | failed => rfl
  | interrupted => rfl
  | ended => rfl
  | passes _ _ _ _ _ ih =>
    rw [ih, List.getLast?_cons, Option.map_some, Option.getD_some, Option.getD_map]

/-- The executor of every node but the last one answered. -/
theorem answered (h : Course d left v vs o s) : ∀ w ∈ vs.dropLast, ∃ t, w.answer d = .ok t := by
  induction h with
  | @passes _ v t m port vs o s running answer runs next rest ih =>
    intro w hw
    cases vs with
    | nil => exact absurd hw List.not_mem_nil
    | cons u us =>
      rcases List.mem_cons.mp hw with rfl | hw
      · exact ⟨t, answer⟩
      · exact ih w hw
  | _ => exact fun _ hw => absurd hw List.not_mem_nil

end Course

/-! ## 3. The end of a run -/

/-- **What tells an outcome**: where the run was completed, at which node it failed and with which
message, or that it was cancelled. -/
inductive RunOutcome.Announced : RunOutcome → Happening → Prop where
  /-- The run is completed at the node that stopped it. -/
  | endReached (id : String) : Announced (.completed (.endReached id)) (.runCompleted id)
  /-- The run is completed at the node from which no edge goes on. -/
  | noOutgoingEdge (id : String) (port : Option String) :
      Announced (.completed (.noOutgoingEdge id port)) (.runCompleted id)
  | failed (id message : String) : Announced (.failed id message) (.runFailed id message)
  | cancelled : Announced .cancelled .runCancelled

theorem RunOutcome.announced_happening (o : RunOutcome) : o.Announced o.happening := by
  cases o with
  | completed t =>
    cases t with
    | endReached id => exact .endReached id
    | noOutgoingEdge id port => exact .noOutgoingEdge id port
  | failed id message => exact .failed id message
  | cancelled => exact .cancelled

theorem RunOutcome.Announced.isTerminal {o : RunOutcome} {h : Happening} (ho : o.Announced h) :
    h.isTerminal = true := by
  cases ho <;> rfl

/-- The host is told where the run starts, the story of each stay, and the outcome. -/
theorem RecordedRun.events {c : Frame σ} {start : Node} {state : RunState} {world : σ}
    {r : RunResult} {record : Record σ} {stays : List (Stay (Record σ))}
    (h : RecordedRun c start state world r record stays) :
    record.events = c.event (.runStarted start.id) :: stays.flatMap (Stay.story c) ++
      [c.event r.outcome.happening] := by
  obtain ⟨s, hcourse, -, hrecord⟩ := h.course
  have hopening : (Stay.first c start state world).reached.world.events =
      [c.event (.runStarted start.id)] := rfl
  have hend : record.events = s.world.events ++ [c.event r.outcome.happening] := by
    rw [hrecord]
    exact List.filterMap_append
  rw [hend, hcourse.events, hopening]
  rfl

/-! ## 4. The account -/

/-- **The story of a run**, as its events tell it. -/
structure Narrated (c : Frame σ) (start : Node) (state : RunState) (r : RunResult)
    (record : Record σ) (stays : List (Stay (Record σ))) (last : Happening) : Prop where
  /-- The host is told where the run starts, the story of each stay, and one thing more. -/
  events : record.events = c.event (.runStarted start.id) :: stays.flatMap (Stay.story c) ++
    [c.event last]
  /-- This last event tells the outcome. -/
  announced : r.outcome.Announced last
  /-- No other event ends a run. -/
  terminal : record.events.filter (·.happening.isTerminal) = [c.event last]
  /-- What comes from an executor is a trace, or text or usage of its own node. -/
  within : ∀ v ∈ stays, ∀ e ∈ v.told c,
    e.executionId = c.executionId ∧ e.happening.Within v.node.id
  /-- Only the executor of the last node may fail, so only this node may lack its ending. -/
  answered : ∀ v ∈ stays.dropLast, ∃ t, v.answer c.recorded = .ok t
  /-- The first node is the start node, and begins with the initial state. -/
  first : ∀ v, stays.head? = some v → v.node = start ∧ v.reached.state = state
  /-- Each node goes on to the next one, which begins in the session in which it was left. -/
  follows : stays.IsChain (Course.Follows c.recorded)
  /-- A node that is finished has the payload as its output. -/
  output : ∀ v ∈ stays, ∀ t, v.answer c.recorded = .ok t →
    (v.left c.recorded).state.outputs.get? v.node.id = some (v.left c.recorded).state.payload
  /-- It leaves the outputs of other nodes as they were when it began. -/
  others : ∀ v ∈ stays, ∀ id, id ≠ v.node.id →
    (v.left c.recorded).state.outputs.get? id = v.reached.state.outputs.get? id
  /-- The result has the state that the last node left. -/
  final : r.state = (stays.getLast?.map fun v => (v.left c.recorded).state).getD state

theorem Stay.left_output {d : Frame σ} {v : Stay σ} {t : Transition} (h : v.answer d = .ok t) :
    (v.left d).state.outputs.get? v.node.id = some (v.left d).state.payload := by
  rw [v.left_of_ok h]
  exact Keyed.get?_set_self _ _ _

theorem Stay.left_others (c : Frame σ) (v : Stay (Record σ)) {id : String} (hid : id ≠ v.node.id) :
    (v.left c.recorded).state.outputs.get? id = v.reached.state.outputs.get? id := by
  have hwork := (v.work_mirrors c).2.1
  cases hanswer : v.answer c.recorded with
  | ok t =>
    rw [v.left_of_ok hanswer, ← hwork]
    exact Keyed.get?_set_of_ne _ _ hid.symm
  | error f => rw [v.left_of_error hanswer, hwork]

/-- **Every run tells its story**, and a run that is recorded is the run itself. -/
theorem runGraph_narrated (c : Frame σ) (state : RunState) (world : σ) {start : Node}
    (h : c.graph.startNode? = some start) : ∃ r record stays last,
      RecordedRun c start state world r record stays ∧
        Narrated c start state r record stays last := by
  obtain ⟨r, record, stays, hrun⟩ := exists_recordedRun h state world
  obtain ⟨s, hcourse, hstate, -⟩ := hrun.course
  have hannounced := r.outcome.announced_happening
  refine ⟨r, record, stays, _, hrun, hrun.events, hannounced, ?_, ?_, hcourse.answered, ?_,
    hcourse.follows, ?_, ?_, ?_⟩
  · have hstory : (stays.flatMap (Stay.story c)).filter (·.happening.isTerminal) = [] := by
      rw [List.filter_eq_nil_iff]
      intro e he
      obtain ⟨v, -, he⟩ := List.mem_flatMap.mp he
      rw [v.story_goesOn c he]
      exact Bool.false_ne_true
    rw [hrun.events, List.filter_append, List.filter_cons_of_neg Bool.false_ne_true, hstory,
      List.nil_append, List.filter_eq_self]
    intro e he
    rw [List.mem_singleton.mp he]
    exact hannounced.isTerminal
  · exact fun v _ e he => v.told_within c he
  · intro v hv
    rw [hcourse.head hv]
    exact ⟨rfl, rfl⟩
  · exact fun v _ t ht => Stay.left_output ht
  · exact fun v _ id hid => v.left_others c hid
  · rw [hstate, hcourse.last]
    cases stays.getLast? <;> rfl

/-- The model answers in pieces, and reports its usage. -/
def greeting : Rehearsal :=
  { model := [(false, .pieces [.ok (.text "Hel"), .ok (.text "lo"), .ok (.usage {})])] }

theorem assistant_narrated : ∃ start, assistant.startNode? = some start ∧
    ∃ r record stays last, RecordedRun assistant.rehearsal start {} greeting r record stays ∧
      Narrated assistant.rehearsal start {} r record stays last :=
  ⟨⟨"start", .start, .initial .start⟩, rfl, runGraph_narrated assistant.rehearsal {} greeting rfl⟩

end Workgraph
