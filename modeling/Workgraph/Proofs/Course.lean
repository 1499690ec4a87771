import Workgraph.Proofs.Recording
import Workgraph.Proofs.Trail

/-!
# The course of a run

A trail says along which edges a run goes. The course of a run says what was done at each of its
nodes: in which session the node was reached, what its executor answered, and in which session it
was left.

* A `Stay` is a node reached in a session; what is done there follows from it.
* `Course` relates the stay at which a run begins to all stays, the outcome and the last session. It
  is `runFrom` as a relation (`exists_course`, `Course.runFrom_eq`).
* `Stay.contacts` lists what the host was asked during a stay, and `Course.contacts` puts these
  lists together.
* `Course.bare`: a course with a record is one without. So a record changes nothing of a run, and
  every run can be recorded (`exists_recordedRun`).
-/

namespace Workgraph

open Exec

variable {σ : Type}

/-- An event of a run. -/
def Frame.event (c : Frame σ) (happening : Happening) : RunEvent :=
  { executionId := c.executionId, happening }

/-! ## 1. Stays -/

/-- A node at which a run arrives, and the session in which it does. -/
structure Stay (σ : Type) where
  node : Node
  reached : Session σ

namespace Stay

/-- What the executor of the node answers, and the session after it. -/
def work (c : Frame σ) (v : Stay σ) : Except Fault Transition × Session σ :=
  settle (execute c v.node) (entering c v.node v.reached)

def answer (c : Frame σ) (v : Stay σ) : Except Fault Transition := (v.work c).1

/-- The session in which the node is left. -/
def left (c : Frame σ) (v : Stay σ) : Session σ :=
  match v.answer c with
  | .ok t => leaving c v.node t (v.work c).2
  | .error _ => (v.work c).2

variable {c : Frame σ} {v : Stay σ} {t : Transition} {f : Fault}

theorem left_of_ok (h : v.answer c = .ok t) : v.left c = leaving c v.node t (v.work c).2 := by
  unfold left
  rw [h]

theorem left_of_error (h : v.answer c = .error f) : v.left c = (v.work c).2 := by
  unfold left
  rw [h]

theorem execute_of_ok (h : v.answer c = .ok t) :
    execute c v.node (entering c v.node v.reached) = .ok t (v.work c).2 := by
  unfold answer work settle at h
  unfold work settle
  split at h
  · next hx =>
    cases h
    rw [hx]
  · cases h

theorem execute_of_error (h : v.answer c = .error f) :
    execute c v.node (entering c v.node v.reached) = .error f (v.work c).2 := by
  unfold answer work settle at h
  unfold work settle
  split at h
  · cases h
  · next hx =>
    cases h
    rw [hx]

end Stay

/-! ## 2. Courses -/

/-- **The course of a run** from a stay on, when so many nodes may be executed: the stays, the
outcome, and the session in the end. -/
inductive Course (c : Frame σ) : Nat → Stay σ → List (Stay σ) → RunOutcome → Session σ → Prop where
  /-- The run was cancelled before the node began. -/
  | cancelled {left : Nat} {v : Stay σ} (h : c.host.cancelled v.reached.world = true) :
      Course c left v [] .cancelled v.reached
  /-- No node may be executed any more. -/
  | exhausted {v : Stay σ} (running : c.host.cancelled v.reached.world = false) :
      Course c 0 v [] (.failed v.node.id "execution limit reached") v.reached
  /-- The executor failed, or was cancelled. -/
  | failed {left : Nat} {v : Stay σ} {f : Fault}
      (running : c.host.cancelled v.reached.world = false) (answer : v.answer c = .error f) :
      Course c (left + 1) v [v] (.ofFault v.node.id f) (v.left c)
  /-- The run was cancelled meanwhile, and the executor answered nevertheless. -/
  | interrupted {left : Nat} {v : Stay σ} {t : Transition}
      (running : c.host.cancelled v.reached.world = false) (answer : v.answer c = .ok t)
      (h : c.host.cancelled (v.left c).world = true) :
      Course c (left + 1) v [v] .cancelled (v.left c)
  /-- The run goes on nowhere. -/
  | ended {left : Nat} {v : Stay σ} {t : Transition} {port : Option String}
      (running : c.host.cancelled v.reached.world = false) (answer : v.answer c = .ok t)
      (runs : c.host.cancelled (v.left c).world = false)
      (next : c.graph.next v.node t = (none, port)) :
      Course c (left + 1) v [v] (.atEnd v.node.id t port) (v.left c)
  /-- The run goes on at another node. -/
  | passes {left : Nat} {v : Stay σ} {t : Transition} {m : Node} {port : Option String}
      {vs : List (Stay σ)} {o : RunOutcome} {s : Session σ}
      (running : c.host.cancelled v.reached.world = false) (answer : v.answer c = .ok t)
      (runs : c.host.cancelled (v.left c).world = false)
      (next : c.graph.next v.node t = (some m, port)) (rest : Course c left ⟨m, v.left c⟩ vs o s) :
      Course c (left + 1) v (v :: vs) o s

section

variable {c : Frame σ} {left : Nat} {v : Stay σ} {vs : List (Stay σ)} {o : RunOutcome}
  {s : Session σ} {t : Transition}

/-- Every run has a course. -/
theorem exists_course (c : Frame σ) (left : Nat) (v : Stay σ) :
    ∃ vs o s, Course c left v vs o s := by
  induction left generalizing v with
  | zero =>
    cases hc : c.host.cancelled v.reached.world with
    | true => exact ⟨_, _, _, .cancelled hc⟩
    | false => exact ⟨_, _, _, .exhausted hc⟩
  | succ left ih =>
    cases hc : c.host.cancelled v.reached.world with
    | true => exact ⟨_, _, _, .cancelled hc⟩
    | false =>
      cases hanswer : v.answer c with
      | error f => exact ⟨_, _, _, .failed hc hanswer⟩
      | ok t =>
        cases hleft : c.host.cancelled (v.left c).world with
        | true => exact ⟨_, _, _, .interrupted hc hanswer hleft⟩
        | false =>
          cases hnext : c.graph.next v.node t with
          | mk next port =>
            cases next with
            | none => exact ⟨_, _, _, .ended hc hanswer hleft hnext⟩
            | some m =>
              obtain ⟨vs, o, s, hrest⟩ := ih ⟨m, v.left c⟩
              exact ⟨_, _, _, .passes hc hanswer hleft hnext hrest⟩

theorem runFrom_of_error {f : Fault} (running : c.host.cancelled v.reached.world = false)
    (h : v.answer c = .error f) :
    runFrom c (left + 1) v.node v.reached = (.ofFault v.node.id f, [v.node.id], v.left c) := by
  have hvisit := visit_of_error (Stay.execute_of_error h)
  rw [v.left_of_error h]
  simp only [runFrom, running, Bool.false_eq_true, if_false, settle, hvisit]

theorem runFrom_of_ok {next : Option Node} {port : Option String}
    (running : c.host.cancelled v.reached.world = false) (h : v.answer c = .ok t)
    (hnext : c.graph.next v.node t = (next, port)) :
    runFrom c (left + 1) v.node v.reached =
      if c.host.cancelled (v.left c).world then (.cancelled, [v.node.id], v.left c)
      else match next with
        | none => (.atEnd v.node.id t port, [v.node.id], v.left c)
        | some m => ((runFrom c left m (v.left c)).1,
          v.node.id :: (runFrom c left m (v.left c)).2.1, (runFrom c left m (v.left c)).2.2) := by
  have hvisit := visit_of_ok (Stay.execute_of_ok h)
  rw [hnext, ← v.left_of_ok h] at hvisit
  cases next with
  | none => simp only [runFrom, running, Bool.false_eq_true, if_false, settle, hvisit]
  | some m => simp only [runFrom, running, Bool.false_eq_true, if_false, settle, hvisit]

/-- **A course is what the run gives.** -/
theorem Course.runFrom_eq (h : Course c left v vs o s) :
    runFrom c left v.node v.reached = (o, vs.map (·.node.id), s) := by
  induction h with
  | cancelled h =>
    unfold runFrom
    rw [if_pos h]
    rfl
  | exhausted running =>
    unfold runFrom
    rw [running, if_neg Bool.false_ne_true]
    rfl
  | failed running answer => exact runFrom_of_error running answer
  | @interrupted _ v t running answer h =>
    cases hnext : c.graph.next v.node t with
    | mk next port =>
      rw [runFrom_of_ok running answer hnext, if_pos h]
      rfl
  | ended running answer runs next =>
    rw [runFrom_of_ok running answer next, runs, if_neg Bool.false_ne_true]
    rfl
  | passes running answer runs next _ ih =>
    rw [runFrom_of_ok running answer next, runs, if_neg Bool.false_ne_true]
    dsimp only at ih ⊢
    rw [ih]
    rfl

/-- A run from a start node gives what its course says. -/
theorem Course.runGraph_eq {start : Node} (hstart : c.graph.startNode? = some start)
    {state : RunState} {world : σ}
    (h : Course c c.settings.maxSteps ⟨start, .opening c start state world⟩ vs o s) :
    runGraph c state world = .ok (
      { executionId := c.executionId, outcome := o, visited := vs.map (·.node.id)
        state := s.state },
      c.host.deliver (c.event o.happening) s.world) := by
  have hrun := h.runFrom_eq
  unfold Session.opening at hrun
  simp only [runGraph, hstart, hrun]
  rfl

end

/-! ## 3. Stays with a record -/

namespace Stay

/-- The same stay without the record. -/
def bare (v : Stay (Record σ)) : Stay σ where
  node := v.node
  reached := v.reached.bare

section

variable (c : Frame σ) (v : Stay (Record σ))

/-- The host is told first that the node begins. -/
def entry : Contact σ where
  deed := .told (c.event (.nodeStarted v.node.id v.node.type v.node.displayName))
  before := v.reached.world.world
  after := (entering c.recorded v.node v.reached).world.world

/-- What the executor of the node asked of the host. -/
def inner : List (Contact σ) :=
  (v.work c.recorded).2.world.contacts.drop (v.reached.world.contacts.length + 1)

/-- When the executor answered, the host is told in the end. -/
def exit : List (Contact σ) :=
  match v.answer c.recorded with
  | .ok t => [{
      deed := .told (c.event (.nodeFinished v.node.id v.node.type
        ((c.graph.next v.node t).1.map (·.id)) t.stop (v.left c.recorded).state))
      before := (v.work c.recorded).2.world.world
      after := (v.left c.recorded).world.world }]
  | .error _ => []

/-- What the host was asked during the stay. -/
def contacts : List (Contact σ) := v.entry c :: v.inner c ++ v.exit c

/-- What the executor did in the recorded frame, it does without a record, and what it added to the
record is within its reach. -/
theorem work_mirrors : v.bare.work c = (v.answer c.recorded, (v.work c.recorded).2.bare) ∧
    (v.work c.recorded).2.state.outputs = v.reached.state.outputs ∧
    (entering c.recorded v.node v.reached).world.Grows c v.node.id (v.work c.recorded).2.world := by
  obtain ⟨x, s, hwork', hwork, houtputs, hgrows⟩ :=
    execute_mirrors c v.reached.state.outputs v.node (entering c.recorded v.node v.reached) rfl
  have hwork' : v.work c.recorded = (x, s) := hwork'
  unfold answer
  rw [hwork']
  exact ⟨hwork, houtputs, hgrows⟩

theorem answer_bare : v.bare.answer c = v.answer c.recorded :=
  congrArg Prod.fst (v.work_mirrors c).1

theorem left_bare : v.bare.left c = (v.left c.recorded).bare := by
  have hwork := congrArg Prod.snd (v.work_mirrors c).1
  cases hanswer : v.answer c.recorded with
  | ok t =>
    rw [v.left_of_ok hanswer, v.bare.left_of_ok ((v.answer_bare c).trans hanswer), hwork]
    rfl
  | error f =>
    rw [v.left_of_error hanswer, v.bare.left_of_error ((v.answer_bare c).trans hanswer), hwork]

/-- The executor adds to the record after the entry. -/
theorem work_contacts :
    (v.work c.recorded).2.world.contacts = v.reached.world.contacts ++ v.entry c :: v.inner c ∧
    c.host.Leads (v.entry c).after (v.inner c) (v.work c.recorded).2.world.world ∧
    ∀ k ∈ v.inner c, k.Within c v.node.id := by
  obtain ⟨-, -, ks, hks, hleads, hwithin⟩ := v.work_mirrors c
  have hentry : (entering c.recorded v.node v.reached).world.contacts =
      v.reached.world.contacts ++ [v.entry c] := rfl
  have hinner : v.inner c = ks := by
    unfold inner
    rw [hks, hentry]
    exact List.drop_left' (by rw [List.length_append, List.length_singleton])
  rw [hinner]
  refine ⟨?_, hleads, hwithin⟩
  rw [hks, hentry, List.append_assoc]
  rfl

theorem left_contacts :
    (v.left c.recorded).world.contacts = v.reached.world.contacts ++ v.contacts c := by
  have hwork := (v.work_contacts c).1
  unfold contacts exit
  cases hanswer : v.answer c.recorded with
  | ok t =>
    rw [← List.append_assoc, ← hwork, v.left_of_ok hanswer]
    rfl
  | error f =>
    rw [List.append_nil, ← hwork, v.left_of_error hanswer]

/-- During a stay one contact leads to the next. -/
theorem leads :
    c.host.Leads v.reached.world.world (v.contacts c) (v.left c.recorded).world.world := by
  have hentry : c.host.Makes (v.entry c) := .told _ _
  have hinner := (v.work_contacts c).2.1
  unfold contacts
  refine .append (.cons hentry hinner) ?_
  unfold exit
  cases hanswer : v.answer c.recorded with
  | ok t =>
    rw [v.left_of_ok hanswer]
    exact .single (.told _ _)
  | error f =>
    rw [v.left_of_error hanswer]
    exact .nil _

end

end Stay

/-! ## 4. Courses with a record -/

section

variable {c : Frame σ} {left : Nat} {v : Stay (Record σ)} {vs : List (Stay (Record σ))}
  {o : RunOutcome} {s : Session (Record σ)}

/-- **A record changes nothing**: without it the course is the same. -/
theorem Course.bare (h : Course c.recorded left v vs o s) :
    Course c left v.bare (vs.map Stay.bare) o s.bare := by
  induction h with
  | cancelled h => exact .cancelled h
  | exhausted running => exact .exhausted running
  | @failed _ v f running answer =>
    rw [← v.left_bare c]
    exact .failed running ((v.answer_bare c).trans answer)
  | @interrupted _ v t running answer h =>
    rw [← v.left_bare c]
    refine .interrupted running ((v.answer_bare c).trans answer) ?_
    rw [v.left_bare c]
    exact h
  | @ended _ v t port running answer runs next =>
    rw [← v.left_bare c]
    refine .ended running ((v.answer_bare c).trans answer) ?_ next
    rw [v.left_bare c]
    exact runs
  | @passes _ v t m port vs o s running answer runs next _ ih =>
    refine .passes running ((v.answer_bare c).trans answer) ?_ next ?_
    · rw [v.left_bare c]
      exact runs
    · rw [v.left_bare c]
      exact ih

/-- What the host was asked in the course of a run: first all of the first stay, and so on. -/
theorem Course.contacts (h : Course c.recorded left v vs o s) :
    s.world.contacts = v.reached.world.contacts ++ vs.flatMap (Stay.contacts c) := by
  induction h with
  | cancelled => exact (List.append_nil _).symm
  | exhausted => exact (List.append_nil _).symm
  | failed => rw [Stay.left_contacts, List.flatMap_singleton]
  | interrupted => rw [Stay.left_contacts, List.flatMap_singleton]
  | ended => rw [Stay.left_contacts, List.flatMap_singleton]
  | passes _ _ _ _ _ ih => rw [ih, Stay.left_contacts, List.append_assoc, List.flatMap_cons]

end

/-! ## 5. Runs with a record -/

/-- The stay with which a run begins. -/
def Stay.first (c : Frame σ) (start : Node) (state : RunState) (world : σ) : Stay (Record σ) where
  node := start
  reached := .opening c.recorded start state { world }

/-- **A run with its record**: the result, the record, and the stays. -/
structure RecordedRun (c : Frame σ) (start : Node) (state : RunState) (world : σ) (r : RunResult)
    (record : Record σ) (stays : List (Stay (Record σ))) : Prop where
  recorded : runGraph c.recorded state { world } = .ok (r, record)
  /-- Without the record the run gives the same result and ends in the same world. -/
  bare : runGraph c state world = .ok (r, record.world)
  visited : r.visited = stays.map (·.node.id)
  /-- The stays are those of the course, after which the host is told of the outcome. -/
  course : ∃ s,
    Course c.recorded c.settings.maxSteps (.first c start state world) stays r.outcome s ∧
      r.state = s.state ∧ record = s.world.note (.told (c.event r.outcome.happening))
        (c.host.deliver (c.event r.outcome.happening) s.world.world)

/-- Every run in a graph with a start node can be recorded. -/
theorem exists_recordedRun {c : Frame σ} {start : Node} (h : c.graph.startNode? = some start)
    (state : RunState) (world : σ) :
    ∃ r record stays, RecordedRun c start state world r record stays := by
  obtain ⟨vs, o, s, hcourse⟩ :=
    exists_course c.recorded c.settings.maxSteps (.first c start state world)
  have hbare := hcourse.bare.runGraph_eq h
  rw [List.map_map] at hbare
  exact ⟨_, _, vs, Course.runGraph_eq (c := c.recorded) h hcourse, hbare, rfl, s, hcourse, rfl, rfl⟩

/-- A frame in which a graph is tried out with all services. -/
def Graph.rehearsal (g : Graph) : Frame Rehearsal :=
  { g.trial with host := Rehearsal.host true true true }

end Workgraph
