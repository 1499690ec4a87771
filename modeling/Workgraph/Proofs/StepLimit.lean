import Workgraph.Proofs.Failure
import Workgraph.Proofs.Independence

/-!
# The limit on the steps of a run

A run may execute so many nodes at most (`Settings.maxSteps`). No node sees this number, so that two
runs with different limits go the same way for as long as both may go on.

* `Frame.withSteps` puts a limit on the runs of a frame; `execute_withSteps` says that nodes do the
  same under it.
* `Course.extend` compares a course with the one under a larger limit, along the course: it is the
  same one, or it was cut short at the node where the other goes on.
* `OnlyCuts` says what this means for two runs that are answered alike, whose ids may differ;
  `runGraph_onlyCuts` is the result.
-/

namespace Workgraph

open Exec

variable {σ τ : Type}

/-! ## 1. The limit is not seen by nodes -/

/-- A frame with another limit on the nodes that a run may execute. -/
def Frame.withSteps (c : Frame σ) (steps : Nat) : Frame σ :=
  { c with settings := { c.settings with maxSteps := steps } }

namespace Exec

variable (c : Frame σ) (steps : Nat)

theorem speaksAlike_withSteps : c.SpeaksAlike (c.withSteps steps) where
  trace := rfl
  delta := rfl
  checkCancelled := rfl
  callTool := rfl
  interrupts := rfl
  lapse := rfl

theorem script_withSteps : script (c.withSteps steps) = script c := by
  funext mode source
  unfold script
  rw [(speaksAlike_withSteps c steps).traceLogs]
  rfl

theorem complete_withSteps (nodeId : String) (b : CompletionBody) :
    complete (c.withSteps steps) nodeId b = complete c nodeId b := by
  have hspeaks := speaksAlike_withSteps c steps
  unfold complete
  simp only [hspeaks.rounds, hspeaks.read]
  rfl

theorem writeVariable_withSteps (nodeId : String) (b : SetVariableBody) :
    writeVariable (c.withSteps steps) nodeId b = writeVariable c nodeId b := by
  unfold writeVariable valueToWrite
  simp only [script_withSteps, (speaksAlike_withSteps c steps).read]
  rfl

/-- **A node does the same under every limit.** -/
theorem execute_withSteps (n : Node) : execute (c.withSteps steps) n = execute c n := by
  have hperform : perform (c.withSteps steps) n.id n.data.body = perform c n.id n.data.body := by
    unfold perform requiredScript
    simp only [script_withSteps, complete_withSteps, writeVariable_withSteps]
    rfl
  unfold execute
  rw [hperform]
  rfl

end Exec

/-- From a node on, a run depends on the nodes that may still be executed only. -/
theorem runFrom_withSteps (c : Frame σ) (steps left : Nat) :
    runFrom (c.withSteps steps) left = runFrom c left := by
  induction left with
  | zero => rfl
  | succ left ih =>
    funext n s
    have hvisit : visit (c.withSteps steps) n = visit c n := by
      unfold visit
      rw [execute_withSteps]
      rfl
    unfold runFrom
    simp only [ih, hvisit]
    rfl

/-! ## 2. Courses under a larger limit -/

namespace Course

variable {c : Frame σ} {left : Nat} {v : Stay σ} {vs : List (Stay σ)} {o : RunOutcome}
  {s : Session σ}

theorem length_le (h : Course c left v vs o s) : vs.length ≤ left := by
  induction h with
  | cancelled => exact Nat.zero_le _
  | exhausted => exact Nat.le_refl _
  | failed => exact Nat.succ_le_succ (Nat.zero_le _)
  | interrupted => exact Nat.succ_le_succ (Nat.zero_le _)
  | ended => exact Nat.succ_le_succ (Nat.zero_le _)
  | passes _ _ _ _ _ ih => exact Nat.succ_le_succ ih

/-- A node that may be executed is. -/
theorem exists_cons (h : Course c (left + 1) v vs o s)
    (running : c.host.cancelled v.reached.world = false) : ∃ more, vs = v :: more := by
  cases h with
  | cancelled hcancelled =>
    rw [running] at hcancelled
    cases hcancelled
  | failed => exact ⟨_, rfl⟩
  | interrupted => exact ⟨_, rfl⟩
  | ended => exact ⟨_, rfl⟩
  | passes => exact ⟨_, rfl⟩

/-- **A course under a larger limit** is the same, or it goes on with the node at which the other
one was cut short. -/
theorem extend (h : Course c left v vs o s) (extra : Nat) :
    Course c (left + extra) v vs o s ∨
    vs.length = left ∧ ∃ w more o' s', o = .failed w.node.id "execution limit reached" ∧
      Course c (left + extra) v (vs ++ w :: more) o' s' := by
  induction h with
  | cancelled h => exact .inl (.cancelled h)
  | @exhausted v running =>
    rw [Nat.zero_add]
    cases extra with
    | zero => exact .inl (.exhausted running)
    | succ extra =>
      obtain ⟨vs, o', s', hcourse⟩ := exists_course c (extra + 1) v
      obtain ⟨more, rfl⟩ := hcourse.exists_cons running
      exact .inr ⟨rfl, v, more, o', s', rfl, hcourse⟩
  | failed running answer =>
    rw [Nat.add_right_comm]
    exact .inl (.failed running answer)
  | interrupted running answer h =>
    rw [Nat.add_right_comm]
    exact .inl (.interrupted running answer h)
  | ended running answer runs next =>
    rw [Nat.add_right_comm]
    exact .inl (.ended running answer runs next)
  | passes running answer runs next _ ih =>
    rw [Nat.add_right_comm]
    rcases ih with hsame | ⟨hlength, w, more, o', s', ho, hcourse⟩
    · exact .inl (.passes running answer runs next hsame)
    · exact .inr ⟨congrArg (· + 1) hlength, w, more, o', s', ho,
        .passes running answer runs next hcourse⟩

/-- A run is not said to be too long unless it executed as many nodes as it may. -/
theorem length_of_exhausted {id : String} (h : Course c left v vs o s)
    (ho : o = .failed id "execution limit reached") : vs.length = left := by
  rcases h.failed_cases ho with ⟨_, _, f, _, _, _, hmessage⟩ | ⟨hlength, -⟩
  · exact absurd hmessage f.message_ne_exhausted
  · exact hlength

/-- A run under a limit gives what the course under this limit says. -/
theorem runGraph_withSteps {start : Node} (hstart : c.graph.startNode? = some start) {steps : Nat}
    {state : RunState} {world : σ}
    (h : Course c steps ⟨start, .opening c start state world⟩ vs o s) :
    runGraph (c.withSteps steps) state world = .ok (
      { executionId := c.executionId, outcome := o, visited := vs.map (·.node.id)
        state := s.state },
      c.host.deliver (c.event o.happening) s.world) := by
  have hstart' : (c.withSteps steps).graph.startNode? = some start := hstart
  have hrun : runFrom (c.withSteps steps) (c.withSteps steps).settings.maxSteps start
      (.opening (c.withSteps steps) start state world) = (o, vs.map (·.node.id), s) := by
    rw [runFrom_withSteps]
    exact h.runFrom_eq
  unfold Session.opening at hrun
  simp only [runGraph, hstart', hrun]
  rfl

end Course

/-! ## 3. Runs under two limits -/

/-- A run that was cut short after so many nodes, and the run that goes on. -/
structure CutShort (steps : Nat) (r r' : RunResult) : Prop where
  goesOn : steps < r'.visited.length
  visited : r.visited = r'.visited.take steps
  /-- The failure names the node at which the other run goes on. -/
  outcome : r.outcome = .failed r'.visited[steps] "execution limit reached"

/-- **One run under two limits**: it is cut short by the smaller one, or it is the same under
both. -/
theorem runGraph_cutShort_or_eq (c : Frame σ) {start : Node}
    (hstart : c.graph.startNode? = some start) {m m' : Nat} (hm : m ≤ m') (state : RunState)
    (world : σ) :
    ∃ p p', runGraph (c.withSteps m) state world = .ok p ∧
      runGraph (c.withSteps m') state world = .ok p' ∧ p.1.visited.length ≤ m ∧
      (CutShort m p.1 p'.1 ∨
        p = p' ∧ (m < m' → ∀ id, p.1.outcome ≠ .failed id "execution limit reached")) := by
  obtain ⟨extra, rfl⟩ := Nat.exists_eq_add_of_le hm
  obtain ⟨vs, o, s, hcourse⟩ := exists_course c m ⟨start, .opening c start state world⟩
  have hlength : (vs.map (·.node.id)).length ≤ m := by
    rw [List.length_map]
    exact hcourse.length_le
  rcases hcourse.extend extra with hsame | ⟨hfull, w, more, o', s', ho, hlonger⟩
  · refine ⟨_, _, hcourse.runGraph_withSteps hstart, hsame.runGraph_withSteps hstart, hlength,
      .inr ⟨rfl, fun hless id ho => ?_⟩⟩
    have hfull := hsame.length_of_exhausted ho
    have hle := hcourse.length_le
    omega
  · refine ⟨_, _, hcourse.runGraph_withSteps hstart, hlonger.runGraph_withSteps hstart, hlength,
      .inl ⟨?_, ?_, ?_⟩⟩
    · rw [List.length_map, List.length_append, List.length_cons]
      omega
    · rw [List.map_append]
      exact (List.take_left' (by rw [List.length_map, hfull])).symm
    · simp only [ho, List.getElem_map, List.getElem_append_right hfull.le, hfull, Nat.sub_self,
        List.getElem_cons_zero]

/-- A run that executes no more nodes than the smaller limit allows is the same under both. -/
theorem runGraph_withSteps_eq (c : Frame σ) {m m' : Nat} (hm : m ≤ m') (state : RunState)
    (world : σ) (hshort : ∀ p, runGraph (c.withSteps m') state world = .ok p →
      p.1.visited.length ≤ m) :
    runGraph (c.withSteps m) state world = runGraph (c.withSteps m') state world := by
  cases hstart : c.graph.startNode? with
  | none =>
    have hnone (steps : Nat) : (c.withSteps steps).graph.startNode? = none := hstart
    unfold runGraph
    rw [hnone, hnone]
  | some start =>
    obtain ⟨p, p', hp, hp', -, hcut | ⟨rfl, -⟩⟩ := runGraph_cutShort_or_eq c hstart hm state world
    · exact absurd (hshort p' hp') (Nat.not_le_of_lt hcut.goesOn)
    · rw [hp, hp']

section

variable {R : σ → τ → Prop} {c : Frame σ} {c' : Frame τ} (h : c.Answers c' R)

include h

theorem Frame.Answers.withSteps (steps : Nat) :
    (c.withSteps steps).Answers (c'.withSteps steps) R where
  engine := h.engine
  settings := by
    unfold Frame.withSteps
    rw [h.settings]
  cancelled := h.cancelled
  told := h.told
  asked := h.asked
  waited := h.waited
  lapsed := h.lapsed
  searched := h.searched
  counted := h.counted
  drew := h.drew

/-- Runs that are answered alike are the same under two limits, when neither is reached. -/
theorem sameRun_withSteps (hgraph : c'.graph = c.graph) {m m' : Nat} (hm : m ≤ m')
    (state : RunState) {w : σ} {w' : τ} (hw : R w w')
    (hshort : ∀ p, runGraph (c.withSteps m') state w = .ok p → p.1.visited.length ≤ m) :
    SameRun (c.withSteps m) (c'.withSteps m') R state w w' := by
  have halike : (c.withSteps m').graph.Alike (c'.withSteps m').graph := by
    show c.graph.Alike c'.graph
    rw [hgraph]
    exact .refl _
  have hsame := (h.withSteps m').sameRun halike state hw
  have hrun := runGraph_withSteps_eq c hm state w hshort
  -- with a record the run visits the same nodes, so that it is the same as well
  have hrecord : runGraph (c.withSteps m).recorded state { world := w } =
      runGraph (c.withSteps m').recorded state { world := w } := by
    refine runGraph_withSteps_eq c.recorded hm state { world := w } fun p hp => ?_
    cases hstart : c.graph.startNode? with
    | none =>
      have hnone : (c.recorded.withSteps m').graph.startNode? = none := hstart
      unfold runGraph at hp
      rw [hnone] at hp
      cases hp
    | some start =>
      have hstart' : (c.withSteps m').graph.startNode? = some start := hstart
      obtain ⟨r, record, stays, hrecorded⟩ := exists_recordedRun hstart' state w
      have hp' := hrecorded.recorded
      rw [show runGraph (c.withSteps m').recorded state { world := w } = .ok p from hp] at hp'
      cases hp'
      exact hshort _ hrecorded.bare
  constructor
  · rw [hsame.result, hrun]
  · rw [hsame.deeds]
    unfold Frame.deeds
    rw [hrecord]
  · intro p p' hp hp'
    rw [hrun] at hp
    exact hsame.worlds p p' hp hp'

end

/-- **The limit on the steps only cuts**: a run with the result `r` under the limit `m`, and one
with the result `r'` under a limit `m'` that is at least as large. -/
structure OnlyCuts (c : Frame σ) (c' : Frame τ) (R : σ → τ → Prop) (m m' : Nat) (state : RunState)
    (w : σ) (w' : τ) (r r' : RunResult) : Prop where
  within : r.visited.length ≤ m
  /-- The run visits the first of the nodes that the other one visits. -/
  visited : r.visited <+: r'.visited
  /-- It fails for the limit when the other one begins a node more. -/
  exhausted : m < m' →
    ((∃ id, r.outcome = .failed id "execution limit reached") ↔ m < r'.visited.length)
  /-- Then the failure names this node. -/
  named (h : m < r'.visited.length) : r.outcome = .failed r'.visited[m] "execution limit reached"
  /-- Otherwise the runs are the same but for their ids. -/
  same : m = m' ∨ r'.visited.length ≤ m →
    SameRun (c.withSteps m) (c'.withSteps m') R state w w'

/-- **Runs under two limits** that are answered alike: both cannot begin, or the smaller limit only
cuts. -/
theorem runGraph_onlyCuts {R : σ → τ → Prop} {c : Frame σ} {c' : Frame τ} (h : c.Answers c' R)
    (hgraph : c'.graph = c.graph) {m m' : Nat} (hm : m ≤ m') (state : RunState) {w : σ} {w' : τ}
    (hw : R w w') :
    (runGraph (c.withSteps m) state w = .error noStartNode ∧
      runGraph (c'.withSteps m') state w' = .error noStartNode) ∨
    ∃ p p', runGraph (c.withSteps m) state w = .ok p ∧
      runGraph (c'.withSteps m') state w' = .ok p' ∧
      OnlyCuts c c' R m m' state w w' p.1 p'.1 := by
  have habreast : (c.withSteps m').Abreast (c'.withSteps m') R := by
    refine (h.withSteps m').abreast ?_
    show c.graph.Alike c'.graph
    rw [hgraph]
    exact .refl _
  cases hstart : c.graph.startNode? with
  | none =>
    have hnone : (c.withSteps m).graph.startNode? = none := hstart
    have hnone' : (c'.withSteps m').graph.startNode? = none := by
      rw [← hstart, ← hgraph]
      rfl
    unfold runGraph
    rw [hnone, hnone']
    exact .inl ⟨rfl, rfl⟩
  | some start =>
    right
    obtain ⟨p, q, hp, hq, hwithin, hcases⟩ := runGraph_cutShort_or_eq c hstart hm state w
    obtain ⟨hnone, -⟩ | ⟨r, w₁, w₁', hrun, hrun', -⟩ := runGraph_matches habreast state hw
    · rw [hq] at hnone
      cases hnone
    · rw [hq] at hrun
      cases hrun
      refine ⟨p, _, hp, hrun', hwithin, ?_, fun hless => ?_, fun hmore => ?_, fun hshort => ?_⟩
      · rcases hcases with hcut | ⟨rfl, -⟩
        · rw [hcut.visited]
          exact List.take_prefix _ _
        · exact List.prefix_rfl
      · rcases hcases with hcut | ⟨rfl, hnot⟩
        · exact iff_of_true ⟨_, hcut.outcome⟩ hcut.goesOn
        · exact iff_of_false (fun ⟨id, ho⟩ => hnot hless id ho) (Nat.not_lt_of_le hwithin)
      · rcases hcases with hcut | ⟨rfl, -⟩
        · exact hcut.outcome
        · exact absurd hmore (Nat.not_lt_of_le hwithin)
      · refine sameRun_withSteps h hgraph hm state hw fun p' hp' => ?_
        rw [hq] at hp'
        cases hp'
        rcases hshort with rfl | hshort
        · rw [hp] at hq
          cases hq
          exact hwithin
        · exact hshort

/-- A run of the assistant with another id. -/
def assistantTwice : Frame Rehearsal := { assistant.rehearsal with executionId := "again" }

theorem assistant_onlyCuts :
    assistant.rehearsal.Answers assistantTwice Rehearsal.SameButIds ∧
    ((runGraph (assistant.rehearsal.withSteps 2) {} hello).map (·.1.outcome)).toOption =
      some (.failed "end" "execution limit reached") ∧
    ∃ p p', runGraph (assistant.rehearsal.withSteps 2) {} hello = .ok p ∧
      runGraph (assistantTwice.withSteps 3) {} hello = .ok p' ∧
      OnlyCuts assistant.rehearsal assistantTwice Rehearsal.SameButIds 2 3 {} hello hello
        p.1 p'.1 := by
  have hanswers : assistant.rehearsal.Answers assistantTwice Rehearsal.SameButIds :=
    Rehearsal.answers rfl rfl rfl rfl
  have houtcome : ((runGraph (assistant.rehearsal.withSteps 2) {} hello).map
      (·.1.outcome)).toOption = some (.failed "end" "execution limit reached") := by decide +kernel
  refine ⟨hanswers, houtcome, ?_⟩
  have hhello : Rehearsal.SameButIds hello hello := ⟨rfl, [], rfl, rfl⟩
  have hlimits : 2 ≤ 3 := by decide
  rcases runGraph_onlyCuts hanswers rfl hlimits {} hhello with ⟨hnone, -⟩ | hcuts
  · rw [hnone] at houtcome
    cases houtcome
  · exact hcuts

end Workgraph
