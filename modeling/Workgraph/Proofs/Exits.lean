import Workgraph.Proofs.CaseChoice
import Workgraph.Proofs.SoundRun

/-!
# Nodes are left through outputs that they have

What a node does and which outputs it has are told in different places. This file shows that they
fit, for nodes whose bodies have their types.

* `Node.LeftBy` says what holds of the transition that a node answers with: the output that it names
  is one of the node's, and a node that names none and does not stop has one output only, unless it
  is an end that is muted. `perform_endsBy` goes through the types of bodies, `execute_leftBy` adds
  muted nodes.
* `exit_mem` and `exit_eq_none_iff` say what this means for the output that a run takes.
* `LeavesByOutputs` puts the two together: where no edge goes on, the output that was taken is one
  of the node's, and it is missing only behind a muted end.
-/

namespace Workgraph

variable {σ : Type}

open Exec

/-! ## 1. Outputs -/

/-- The outputs of a node with a body of its type. -/
def NodeBody.outputs (b : NodeBody) : List Port := (definitionOf b.nodeType).outputs b

/-- A body without outputs is that of an end. -/
theorem NodeBody.finish_of_outputs_nil {b : NodeBody} (h : b.outputs = []) :
    b.nodeType = .finish := by
  cases b with
  | finish => rfl
  | switch b =>
    have hlength : b.ports.length = 0 := congrArg List.length h
    unfold SwitchBody.ports at hlength
    rw [List.length_map, List.length_range] at hlength
    have := b.le_caseCount
    omega
  | _ => cases h

/-- The ids of a node's outputs. -/
def Node.outputIds (n : Node) : List String := n.outputPorts.map (·.id)

namespace Node

variable {n : Node} {t : Transition}

theorem outputPorts_of_typed (h : n.data.body.nodeType = n.type) :
    n.outputPorts = n.data.body.outputs := by
  unfold outputPorts NodeBody.outputs
  rw [h]

theorem outputPorts_of_finish (h : n.type = .finish) : n.outputPorts = [] := by
  unfold outputPorts
  rw [h]
  rfl

/-- **How a node may be left**: through an output that it has. -/
structure LeftBy (n : Node) (t : Transition) : Prop where
  /-- An output that is named is one of the node's. -/
  named : ∀ port, t.port = some port → port ∈ n.outputIds
  /-- When none is named and the run goes on, there is exactly one; but an end that is muted goes on
  although it has none. -/
  unnamed : t.port = none → t.stop = false →
    n.outputPorts.length = 1 ∨ n.type = .finish ∧ n.data.muted = true ∧ n.outputPorts = []

namespace LeftBy

/-- What is taken when a node is left is one of its outputs. -/
theorem exit_mem (h : n.LeftBy t) {port : String} (hexit : n.Exit t (some port)) :
    port ∈ n.outputIds := by
  cases hexit with
  | named names => exact h.named _ names
  | only _ ports => exact List.mem_map.mpr ⟨_, ports ▸ List.mem_singleton_self _, rfl⟩

/-- Nothing is taken behind an end that is muted, and only there. -/
theorem exit_eq_none_iff (h : n.LeftBy t) (hstop : t.stop = false) {port : Option String}
    (hexit : n.Exit t port) : port = none ↔ n.type = .finish ∧ n.data.muted = true := by
  have hnil : n.type = .finish → n.outputPorts = [] := outputPorts_of_finish
  cases hexit with
  | named names =>
    refine ⟨nofun, fun ⟨hfinish, _⟩ => ?_⟩
    have hmem := h.named _ names
    rw [outputIds, hnil hfinish] at hmem
    cases hmem
  | only _ ports =>
    refine ⟨nofun, fun ⟨hfinish, _⟩ => ?_⟩
    rw [hnil hfinish] at ports
    cases ports
  | missing unnamed ports =>
    rcases h.unnamed unnamed hstop with hone | ⟨hfinish, hmuted, -⟩
    · exact absurd hone ports
    · exact ⟨fun _ => ⟨hfinish, hmuted⟩, fun _ => rfl⟩

end LeftBy

end Node

/-! ## 2. Executors -/

/-- A body that was performed ends at one of its outputs, or at its only one, or stops. -/
structure NodeBody.EndsBy (b : NodeBody) (t : Transition) : Prop where
  named : ∀ port, t.port = some port → port ∈ b.outputs.map (·.id)
  unnamed : t.port = none → t.stop = false → b.outputs.length = 1

namespace NodeBody.EndsBy

variable {b : NodeBody}

theorem only (h : b.outputs.length = 1) : b.EndsBy {} := ⟨nofun, fun _ _ => h⟩

theorem stop : b.EndsBy { stop := true } := ⟨nofun, nofun⟩

theorem through {port : String} (h : port ∈ b.outputs.map (·.id)) :
    b.EndsBy { port := some port } :=
  ⟨fun _ heq => Option.some.inj heq ▸ h, nofun⟩

end NodeBody.EndsBy

theorem branchPort_mem {nodeId condition port : String} {v : Json}
    (h : branchPort nodeId v = .ok port) :
    port ∈ (NodeBody.ifElse condition).outputs.map (·.id) := by
  have hports : (NodeBody.ifElse condition).outputs.map (·.id) =
      [PortId.thenBranch, PortId.elseBranch] := rfl
  rw [hports]
  unfold branchPort at h
  split at h
  · cases h
    exact List.mem_cons_self
  · cases h
    exact List.mem_cons_of_mem _ List.mem_cons_self
  · cases h

theorem selectedPort_mem {nodeId port : String} {b : SwitchBody} {v : Json}
    (h : selectedPort nodeId b v = .ok port) : port ∈ (NodeBody.switch b).outputs.map (·.id) := by
  unfold selectedPort at h
  split at h
  · next hport =>
    cases h
    exact b.portFor_mem_ports hport
  · cases h

namespace Exec

variable {c : Frame σ} {nodeId : String} {b : NodeBody} {n : Node} {t : Transition}

/-- A step after which the only output is taken. -/
theorem CanGive.of_step {α : Type} {act : Exec σ α} {t : Transition}
    (h : CanGive (act >>= fun _ => pure {}) t) : t = {} := by
  obtain ⟨_, -, h⟩ := h.of_bind
  exact h.of_pure

/-- **What a body does ends at its outputs**, type by type. -/
theorem perform_endsBy (h : CanGive (perform c nodeId b) t) : b.EndsBy t := by
  cases b with
  | start =>
    obtain rfl := CanGive.of_pure h
    exact .only rfl
  | finish =>
    obtain rfl := CanGive.of_pure h
    exact .stop
  | ifElse condition =>
    obtain ⟨v, -, h⟩ := CanGive.of_bind h
    obtain ⟨port, hport, h⟩ := h.of_bind
    obtain rfl := h.of_pure
    exact .through (branchPort_mem hport.of_ofExcept)
  | switch b =>
    obtain ⟨v, -, h⟩ := CanGive.of_bind h
    obtain ⟨port, hport, h⟩ := h.of_bind
    obtain rfl := h.of_pure
    exact .through (selectedPort_mem hport.of_ofExcept)
  | transform b =>
    obtain ⟨v, -, h⟩ := CanGive.of_bind h
    obtain rfl := h.of_step
    exact .only rfl
  | getVariable b =>
    obtain ⟨path, -, h⟩ := CanGive.of_bind h
    obtain ⟨s, -, h⟩ := h.of_bind
    obtain rfl := h.of_step
    exact .only rfl
  | setVariable b =>
    obtain rfl := CanGive.of_step h
    exact .only rfl
  | contextMessage b =>
    obtain rfl := CanGive.of_step h
    exact .only rfl
  | completion b =>
    obtain rfl := CanGive.of_step h
    exact .only rfl
  | randomizer | retrieval | documentReader | globalState => exact (CanGive.of_throw h).elim

/-- **Nodes are left through outputs that they have**, muted or not. -/
theorem execute_leftBy (htyped : n.data.body.nodeType = n.type) (h : CanGive (execute c n) t) :
    n.LeftBy t := by
  have houtputs := n.outputPorts_of_typed htyped
  obtain ⟨_, -, h⟩ := CanGive.of_bind h
  split at h
  · next hmuted =>
    obtain ⟨_, -, h⟩ := h.of_bind
    obtain rfl := h.of_pure
    constructor
    · intro port hport
      obtain ⟨first, hfirst, rfl⟩ := Option.map_eq_some_iff.mp hport
      exact List.mem_map_of_mem (List.mem_of_head? hfirst)
    · intro hport _
      have hnil : n.outputPorts = [] := List.head?_eq_none_iff.mp (Option.map_eq_none_iff.mp hport)
      have hfinish := NodeBody.finish_of_outputs_nil (houtputs ▸ hnil)
      exact Or.inr ⟨htyped ▸ hfinish, hmuted, hnil⟩
  · have hends := perform_endsBy h
    constructor
    · rw [Node.outputIds, houtputs]
      exact hends.named
    · rw [houtputs]
      exact fun hport hstop => Or.inl (hends.unnamed hport hstop)

end Exec

/-! ## 3. Runs -/

namespace Graph

/-- The check of the nodes finds every body of another type than its node's. -/
theorem typed_of_nodeIssues : ∀ (ns : List Node) (earlier : List String),
    (∀ i ∈ nodeIssuesAfter earlier ns, i.code ≠ "node_data_mismatch") →
    ∀ n ∈ ns, n.data.body.nodeType = n.type := by
  intro ns
  induction ns with
  | nil => exact fun _ _ n hn => absurd hn List.not_mem_nil
  | cons m ns ih =>
    intro earlier h n hn
    rcases List.mem_cons.mp hn with rfl | hn
    · by_contra hne
      obtain ⟨i, hi, hcode⟩ : ∃ i ∈ nodeIssuesOf earlier n, i.code = "node_data_mismatch" := by
        unfold nodeIssuesOf
        rw [if_pos hne]
        exact ⟨_, List.mem_append_right _ (List.mem_singleton_self _), rfl⟩
      exact h i (List.mem_append_left _ hi) hcode
    · exact ih _ (fun i hi => h i (List.mem_append_right _ hi)) n hn

theorem typed_of_issues {g : Graph} (h : ∀ i ∈ g.issues, i.code ≠ "node_data_mismatch") :
    ∀ n ∈ g.nodes, n.data.body.nodeType = n.type := by
  refine typed_of_nodeIssues g.nodes [] fun i hi => h i ?_
  unfold issues
  simp only [List.mem_append]
  exact Or.inl (Or.inl (Or.inl (Or.inr hi)))

end Graph

/-- **The nodes of a frame are left through outputs that they have**, one by one and in runs. -/
structure LeavesByOutputs (c : Frame σ) : Prop where
  /-- A node whose body has its type is left as it may be, in whatever session it is executed. -/
  answers : ∀ n : Node, n.data.body.nodeType = n.type →
    ∀ s t s', execute c n s = .ok t s' → n.LeftBy t
  /-- When no node of the graph has a body of another type, a run that no edge leads on ended at a
  node of the graph, at one of its outputs. Only when the node is an end that is muted, there is no
  output. -/
  strands : (∀ i ∈ c.graph.issues, i.code ≠ "node_data_mismatch") →
    ∀ state world r w, runGraph c state world = .ok (r, w) →
    ∀ id port, r.outcome = .completed (.noOutgoingEdge id port) →
    ∃ n ∈ c.graph.nodes, n.id = id ∧ r.visited.getLast? = some id ∧
      (∀ p, port = some p → p ∈ n.outputIds) ∧
      (port = none ↔ n.type = .finish ∧ n.data.muted = true)

theorem leavesByOutputs (c : Frame σ) : LeavesByOutputs c where
  answers n htyped s t s' h := execute_leftBy htyped ⟨s, s', h⟩
  strands hissues state world r w hrun id port ho := by
    cases hstart : c.graph.startNode? with
    | none =>
      unfold runGraph at hrun
      rw [hstart] at hrun
      cases hrun
    | some start =>
      obtain ⟨ns, last, s₁, outcome, ended, s', htrail, -, hend, hfrom⟩ :=
        runFrom_trail c c.settings.maxSteps start (.opening c start state world)
      obtain ⟨w', hw⟩ := runGraph_of_start hstart state world hfrom
      rw [hrun] at hw
      cases hw
      obtain ⟨rfl, rfl, t, _, ⟨s₂, hexecute, -⟩, hstop, hexit, -⟩ := hend.strands ho
      have hlast : last ∈ c.graph.nodes := by
        refine htrail.forall_nodes (List.mem_of_find?_eq_some hstart) (fun n port e m hm => ?_)
          last (List.mem_append_right _ List.mem_cons_self)
        exact Graph.mem_of_findNode? hm.target
      have hleft : last.LeftBy t :=
        execute_leftBy (Graph.typed_of_issues hissues last hlast) ⟨_, s₂, hexecute⟩
      refine ⟨last, hlast, rfl, ?_, fun p hp => hleft.exit_mem (hp ▸ hexit),
        hleft.exit_eq_none_iff hstop hexit⟩
      rw [List.map_append, List.map_singleton, List.getLast?_concat]

/-- A muted end is executed and goes on, and there is nothing to go on through. -/
example :
    let muted : Node := ⟨"end", .finish, { NodeData.initial .finish with muted := true }⟩
    let g : Graph := { nodes := [⟨"start", .start, .initial .start⟩, muted]
                       edges := [{ id := "1", source := "start", target := "end" }] }
    g.issues = [] ∧ (runGraph g.trial {} {}).toOption.map (·.1.outcome) =
      some (.completed (.noOutgoingEdge "end" none)) := by
  decide +kernel

end Workgraph
