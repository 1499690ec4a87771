import Workgraph.Proofs.Departure
import Workgraph.Run.Rehearsal

/-!
# Runs as trails

A run executes one node after the other. This file cuts every run into the nodes that it passed,
each with its executor's answer and the edge along which it was left, and the way it ended at the
last node.

* `Node.Exit` says through which output a transition leaves a node;
* `Answers` says that a node was executed at a session and which transition came back;
* `Trail` is the part of a run in which nodes are passed, `Ending` the part at its last node;
* `runFrom_trail` puts the two together: every run is a trail and an ending;
* `FollowsChain` is the account of a whole run: the nodes visited are a walk along the edges that
  are taken, and a completed run ends where a node stopped or no edge goes on.

Nothing is assumed about graph, host or scripts. Two nodes may have one id, so a trail holds nodes
and the ids follow.
-/

namespace Workgraph

variable {σ : Type}

/-! ## 1. The exit of a node -/

/-- **The output through which a transition leaves a node**, if there is one: the output that it
names, or else the only output of the node. -/
inductive Node.Exit (n : Node) (t : Transition) : Option String → Prop where
  /-- The transition names an output. -/
  | named {port : String} (names : t.port = some port) : Exit n t (some port)
  /-- It names none, and the node has one only. -/
  | only {p : Port} (unnamed : t.port = none) (ports : n.outputPorts = [p]) : Exit n t (some p.id)
  /-- It names none, and the node has none or several. -/
  | missing (unnamed : t.port = none) (ports : n.outputPorts.length ≠ 1) : Exit n t none

theorem Node.exit_exit? (n : Node) (t : Transition) : n.Exit t (n.exit? t.port) := by
  unfold exit?
  split
  · next port hport => exact .named hport
  · next p hport hports => exact .only hport hports
  · next hport hports =>
    refine .missing hport fun hlength => ?_
    obtain ⟨p, hp⟩ := List.length_eq_one_iff.mp hlength
    exact hports p hp

/-! ## 2. Executing one node -/

namespace Exec

/-- The session in which a node's executor begins: the host knows of it. -/
def entering (c : Frame σ) (n : Node) (s : Session σ) : Session σ :=
  { s with world := c.host.deliver { executionId := c.executionId
                                     happening := .nodeStarted n.id n.type n.displayName } s.world }

/-- The session after a node whose executor answered: its output is recorded, the host knows. -/
def leaving (c : Frame σ) (n : Node) (t : Transition) (s : Session σ) : Session σ :=
  let state := s.state.recordOutput n.id s.state.payload
  let next := (c.graph.next n t).1.map (·.id)
  { s with
    state
    world := c.host.deliver { executionId := c.executionId
                              happening := .nodeFinished n.id n.type next t.stop state } s.world }

theorem visit_of_ok {c : Frame σ} {n : Node} {s s₁ : Session σ} {t : Transition}
    (h : execute c n (entering c n s) = .ok t s₁) :
    visit c n s = .ok (t, (c.graph.next n t).1, (c.graph.next n t).2) (leaving c n t s₁) := by
  have hemit : emit c (.nodeStarted n.id n.type n.displayName) s = .ok () (entering c n s) := rfl
  unfold visit
  simp only [bind, EStateM.bind, hemit, h]
  rfl

theorem visit_of_error {c : Frame σ} {n : Node} {s s₁ : Session σ} {f : Fault}
    (h : execute c n (entering c n s) = .error f s₁) : visit c n s = .error f s₁ := by
  have hemit : emit c (.nodeStarted n.id n.type n.displayName) s = .ok () (entering c n s) := rfl
  unfold visit
  simp only [bind, EStateM.bind, hemit, h]

end Exec

open Exec

/-- A node, reached at a session, was executed and its executor answered with a transition. -/
def Answers (c : Frame σ) (n : Node) (s : Session σ) (t : Transition) (s' : Session σ) : Prop :=
  ∃ s₁, execute c n (entering c n s) = .ok t s₁ ∧ s' = leaving c n t s₁

/-! ## 3. Trails and endings -/

/-- **The nodes that a run passed** on the way from a node at a session to another one: each was
executed, did not stop, and was left along the edge that is taken. -/
inductive Trail (c : Frame σ) : Node → Session σ → List Node → Node → Session σ → Prop where
  | here (n : Node) (s : Session σ) : Trail c n s [] n s
  | pass {n m k : Node} {s s' s'' : Session σ} {t : Transition} {port : String} {e : Edge}
      {ns : List Node} (running : c.host.cancelled s.world = false) (answers : Answers c n s t s')
      (goesOn : t.stop = false) (exit : n.Exit t (some port))
      (takes : c.graph.Takes n port e m) (rest : Trail c m s' ns k s'') :
      Trail c n s (n :: ns) k s''

/-- **How a run ends at a node** when so many nodes may still be executed: the outcome, the nodes
executed from here on (at most this one), and the session in the end. -/
inductive Ending (c : Frame σ) (n : Node) (s : Session σ) :
    Nat → RunOutcome → List Node → Session σ → Prop where
  /-- The run was cancelled before the node began. -/
  | cancelled {left : Nat} (h : c.host.cancelled s.world = true) : Ending c n s left .cancelled [] s
  /-- No node may be executed any more. -/
  | exhausted (running : c.host.cancelled s.world = false) :
      Ending c n s 0 (.failed n.id "execution limit reached") [] s
  /-- The executor failed, or was cancelled. -/
  | failed {left : Nat} {f : Fault} {s' : Session σ} (running : c.host.cancelled s.world = false)
      (h : execute c n (entering c n s) = .error f s') :
      Ending c n s (left + 1) (.ofFault n.id f) [n] s'
  /-- The run was cancelled while the node was executed, and the executor answered nevertheless. -/
  | interrupted {left : Nat} {t : Transition} {s' : Session σ}
      (running : c.host.cancelled s.world = false) (answers : Answers c n s t s')
      (h : c.host.cancelled s'.world = true) : Ending c n s (left + 1) .cancelled [n] s'
  /-- The executor asked to stop. -/
  | stopped {left : Nat} {t : Transition} {s' : Session σ}
      (running : c.host.cancelled s.world = false) (answers : Answers c n s t s')
      (stops : t.stop = true) : Ending c n s (left + 1) (.completed (.endReached n.id)) [n] s'
  /-- No edge goes on from the exit, if there is one. -/
  | stranded {left : Nat} {t : Transition} {port : Option String} {s' : Session σ}
      (running : c.host.cancelled s.world = false) (answers : Answers c n s t s')
      (goesOn : t.stop = false) (exit : n.Exit t port)
      (noEdge : ∀ p, port = some p → ∀ e ∈ c.graph.edges, ∀ m, ¬ c.graph.CanTake n p e m) :
      Ending c n s (left + 1) (.completed (.noOutgoingEdge n.id port)) [n] s'

/-- What follows a node whose executor did not stop. -/
theorem Graph.next_of_goesOn (g : Graph) (n : Node) {t : Transition} (h : t.stop = false) :
    g.next n t = ((n.exit? t.port).bind (g.through? n), n.exit? t.port) := by
  unfold Graph.next
  rw [if_neg (by rw [h]; exact Bool.false_ne_true)]
  cases n.exit? t.port <;> rfl

/-- A node that may be executed: the run ends here, or it goes on at another node. -/
theorem runFrom_succ (c : Frame σ) (left : Nat) (n : Node) (s : Session σ)
    (running : c.host.cancelled s.world = false) :
    (∃ outcome s', Ending c n s (left + 1) outcome [n] s' ∧
      runFrom c (left + 1) n s = (outcome, [n.id], s')) ∨
    ∃ t s' port e m, Answers c n s t s' ∧ t.stop = false ∧ n.Exit t (some port) ∧
      c.graph.Takes n port e m ∧ runFrom c (left + 1) n s =
        ((runFrom c left m s').1, n.id :: (runFrom c left m s').2.1,
          (runFrom c left m s').2.2) := by
  have hrun : ¬ c.host.cancelled s.world = true := by rw [running]; exact Bool.false_ne_true
  cases hx : execute c n (entering c n s) with
  | error f s' =>
    refine Or.inl ⟨_, s', .failed running hx, ?_⟩
    simp only [runFrom, if_neg hrun, settle, visit_of_error hx]
  | ok t s₁ =>
    have hans : Answers c n s t (leaving c n t s₁) := ⟨s₁, hx, rfl⟩
    have hvisit := visit_of_ok hx
    generalize leaving c n t s₁ = s' at hans hvisit
    by_cases hc : c.host.cancelled s'.world = true
    · refine Or.inl ⟨_, s', .interrupted running hans hc, ?_⟩
      simp only [runFrom, if_neg hrun, settle, hvisit, if_pos hc]
    · cases hstop : t.stop with
      | true =>
        refine Or.inl ⟨_, s', .stopped running hans hstop, ?_⟩
        simp only [runFrom, if_neg hrun, settle, hvisit, if_neg hc, Graph.next, hstop, if_true,
          RunOutcome.atEnd]
      | false =>
        have hnext := c.graph.next_of_goesOn n hstop
        have hexit := n.exit_exit? t
        cases hm : (n.exit? t.port).bind (c.graph.through? n) with
        | none =>
          refine Or.inl ⟨_, s', .stranded running hans hstop hexit fun port hp => ?_, ?_⟩
          · rw [hp] at hm
            exact Graph.through?_eq_none_iff.mp hm
          · simp only [runFrom, if_neg hrun, settle, hvisit, if_neg hc, hnext, hm,
              RunOutcome.atEnd, hstop, Bool.false_eq_true, if_false]
        | some m =>
          obtain ⟨port, hp, hthrough⟩ := Option.bind_eq_some_iff.mp hm
          obtain ⟨e, he⟩ := Graph.exists_takes_of_through? hthrough
          refine Or.inr ⟨t, s', port, e, m, hans, hstop, hp ▸ hexit, he, ?_⟩
          simp only [runFrom, if_neg hrun, settle, hvisit, if_neg hc, hnext, hm]

/-- **Every run is a trail and an ending.** -/
theorem runFrom_trail (c : Frame σ) : ∀ (left : Nat) (n : Node) (s : Session σ),
    ∃ ns last s₁ outcome ended s', Trail c n s ns last s₁ ∧ ns.length ≤ left ∧
      Ending c last s₁ (left - ns.length) outcome ended s' ∧
      runFrom c left n s = (outcome, (ns ++ ended).map (·.id), s') := by
  intro left
  induction left with
  | zero =>
    intro n s
    cases hc : c.host.cancelled s.world with
    | true =>
      refine ⟨[], n, s, _, [], s, .here n s, Nat.le_refl 0, .cancelled hc, ?_⟩
      simp only [runFrom, hc, if_true]
      rfl
    | false =>
      refine ⟨[], n, s, _, [], s, .here n s, Nat.le_refl 0, .exhausted hc, ?_⟩
      simp only [runFrom, hc]
      rfl
  | succ left ih =>
    intro n s
    cases hc : c.host.cancelled s.world with
    | true =>
      refine ⟨[], n, s, _, [], s, .here n s, Nat.zero_le _, .cancelled hc, ?_⟩
      simp only [runFrom, hc, if_true]
      rfl
    | false =>
      rcases runFrom_succ c left n s hc with ⟨outcome, s', hend, hrun⟩ | h
      · exact ⟨[], n, s, outcome, [n], s', .here n s, Nat.zero_le _, hend, hrun⟩
      · obtain ⟨t, s', port, e, m, hans, hstop, hp, he, hrun⟩ := h
        obtain ⟨ns, last, s₁, outcome, ended, s₂, htrail, hlen, hend, hrest⟩ := ih m s'
        refine ⟨n :: ns, last, s₁, outcome, ended, s₂, .pass hc hans hstop hp he htrail, ?_, ?_, ?_⟩
        · exact Nat.succ_le_succ hlen
        · rwa [List.length_cons, Nat.add_sub_add_right]
        · rw [hrun, hrest]
          rfl

/-! ## 4. Whole runs -/

/-- The session in which a run begins: the host knows of the start node. -/
def Session.opening (c : Frame σ) (start : Node) (state : RunState) (world : σ) : Session σ :=
  { state
    world := c.host.deliver { executionId := c.executionId, happening := .runStarted start.id }
      world }

/-- What a run from a start node amounts to. -/
theorem runGraph_of_start {c : Frame σ} {start : Node} (h : c.graph.startNode? = some start)
    (state : RunState) (world : σ) {outcome : RunOutcome} {visited : List String} {s : Session σ}
    (hrun : runFrom c c.settings.maxSteps start (.opening c start state world) =
      (outcome, visited, s)) :
    ∃ w, runGraph c state world =
      .ok ({ executionId := c.executionId, outcome, visited, state := s.state }, w) := by
  refine ⟨c.host.deliver { executionId := c.executionId
                           happening := outcome.happening } s.world, ?_⟩
  unfold Session.opening at hrun
  simp only [runGraph, h, hrun]

/-- **A result along the chain of control**: the nodes visited are those passed on a trail from the
start node, and the node reached in the end if it was still executed. A run that completed ends at
that node, which asked to stop or has no edge to go on along. -/
structure FollowsChain (c : Frame σ) (start : Node) (s : Session σ) (r : RunResult)
    (passed : List Node) (last : Node) (s₁ : Session σ) (ended : List Node) : Prop where
  trail : Trail c start s passed last s₁
  executed : ended = [] ∨ ended = [last]
  visited : r.visited = (passed ++ ended).map (·.id)
  stopped : ∀ id, r.outcome = .completed (.endReached id) →
    id = last.id ∧ ended = [last] ∧ ∃ t s', Answers c last s₁ t s' ∧ t.stop = true
  stranded : ∀ id port, r.outcome = .completed (.noOutgoingEdge id port) →
    id = last.id ∧ ended = [last] ∧ ∃ t s', Answers c last s₁ t s' ∧ t.stop = false ∧
      last.Exit t port ∧ ∀ p, port = some p →
        ∀ e ∈ c.graph.edges, ∀ m, ¬ c.graph.CanTake last p e m

/-- A fault does not complete a run. -/
theorem RunOutcome.ofFault_ne_completed (id : String) (f : Fault) (e : Termination) :
    RunOutcome.ofFault id f ≠ .completed e := by
  unfold RunOutcome.ofFault
  split <;> exact nofun

namespace Ending

variable {c : Frame σ} {n : Node} {s s' : Session σ} {left : Nat} {o : RunOutcome}
  {ended : List Node}

theorem executed (h : Ending c n s left o ended s') : ended = [] ∨ ended = [n] := by
  cases h <;> first | exact Or.inl rfl | exact Or.inr rfl

/-- A run completes at its end only when the last node asked to stop. -/
theorem stops {id : String} (h : Ending c n s left o ended s')
    (ho : o = .completed (.endReached id)) :
    id = n.id ∧ ended = [n] ∧ ∃ t s', Answers c n s t s' ∧ t.stop = true := by
  cases h with
  | cancelled => cases ho
  | exhausted => cases ho
  | failed => exact absurd ho (RunOutcome.ofFault_ne_completed _ _ _)
  | interrupted => cases ho
  | stopped _ answers stops =>
    cases ho
    exact ⟨rfl, rfl, _, _, answers, stops⟩
  | stranded => cases ho

/-- A run completes without an edge only where the chain can go on along none. -/
theorem strands {id : String} {port : Option String} (h : Ending c n s left o ended s')
    (ho : o = .completed (.noOutgoingEdge id port)) :
    id = n.id ∧ ended = [n] ∧ ∃ t s', Answers c n s t s' ∧ t.stop = false ∧
      n.Exit t port ∧ ∀ p, port = some p →
        ∀ e ∈ c.graph.edges, ∀ m, ¬ c.graph.CanTake n p e m := by
  cases h with
  | cancelled => cases ho
  | exhausted => cases ho
  | failed => exact absurd ho (RunOutcome.ofFault_ne_completed _ _ _)
  | interrupted => cases ho
  | stopped => cases ho
  | stranded _ answers goesOn exit noEdge =>
    cases ho
    exact ⟨rfl, rfl, _, _, answers, goesOn, exit, noEdge⟩

end Ending

/-- **Runs follow the chain of control.** In a graph with a start node every run gives a result, and
that result is one along the chain, whatever the state, the scripts, the host and its moment of
cancelling are. -/
theorem runGraph_followsChain (c : Frame σ) (state : RunState) (world : σ) {start : Node}
    (h : c.graph.startNode? = some start) :
    ∃ r w passed last s₁ ended, runGraph c state world = .ok (r, w) ∧
      FollowsChain c start (.opening c start state world) r passed last s₁ ended := by
  obtain ⟨ns, last, s₁, outcome, ended, s', htrail, -, hend, hrun⟩ :=
    runFrom_trail c c.settings.maxSteps start (.opening c start state world)
  obtain ⟨w, hw⟩ := runGraph_of_start h state world hrun
  exact ⟨_, w, ns, last, s₁, ended, hw, htrail, hend.executed, rfl, fun _ => hend.stops,
    fun _ _ => hend.strands⟩

/-- A frame in which a graph is tried out: a rehearsal without a model or a store. -/
def Graph.trial (g : Graph) : Frame Rehearsal :=
  { graph := g, engine := .limited {}, settings := {}, host := Rehearsal.host false false false
    executionId := "trial" }

/-- A start node with edges to a provider, to nothing, and to two ends, one of them twice. -/
def crossroads : Graph :=
  { nodes := [⟨"start", .start, .initial .start⟩, ⟨"0", .randomizer, .initial .randomizer⟩,
      ⟨"b", .finish, .initial .finish⟩, ⟨"a", .finish, .initial .finish⟩]
    edges := [{ id := "1", source := "start", target := "0" },
      { id := "2", source := "start", target := "absent" },
      { id := "3", source := "start", target := "b" },
      { id := "5", source := "start", target := "a" },
      { id := "4", source := "start", target := "a" }] }

theorem crossroads_followsChain : ∃ start, crossroads.startNode? = some start ∧
    ∃ r w passed last s₁ ended, runGraph crossroads.trial {} {} = .ok (r, w) ∧
      FollowsChain crossroads.trial start (.opening crossroads.trial start {} {}) r passed last s₁
        ended :=
  ⟨⟨"start", .start, .initial .start⟩, rfl, runGraph_followsChain crossroads.trial {} {} rfl⟩

end Workgraph
