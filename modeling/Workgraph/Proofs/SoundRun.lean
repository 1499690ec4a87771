import Workgraph.Proofs.Exploration
import Workgraph.Proofs.Faults
import Workgraph.Proofs.Trail
import Workgraph.Proofs.Validity

/-!
# Runs of graphs without errors

A graph without errors can still fail: scripts, services and settings may be wrong. This file says
what cannot happen.

* The chain of control follows edges that the traversal follows too, so from a start that begins no
  endless way no id is met twice (`Trail.nodup`), and no more steps are needed than there are nodes.
* `quoted_given` goes through the list of faults: those of a wrong wiring are not the node's own.
* `SoundRun` is what both amount to for a run as a whole.
-/

namespace Workgraph

variable {σ : Type}

open Exec

/-! ## 1. Trails lead along edges that a traversal follows -/

namespace Graph

variable {g : Graph} {n m : Node} {port : String} {e : Edge}

theorem CanTake.leads (h : g.CanTake n port e m) (he : e ∈ g.edges) : g.Leads [] n.id m.id := by
  have hid := findNode?_id h.target
  have hnode := hasNode_of_findNode? h.target
  exact ⟨e, he, List.not_mem_nil, h.source, hid.symm, hid ▸ hnode⟩

theorem Takes.mem (h : g.Takes n port e m) : e ∈ g.edges := by
  obtain ⟨-, i, hi, -⟩ := h
  exact List.mem_of_getElem? hi

end Graph

namespace Trail

variable {c : Frame σ} {n k : Node} {s s' : Session σ} {ns : List Node}

/-- What holds at the first node and wherever the chain of control leads holds all along. -/
theorem forall_nodes {P : Node → Prop} (h : Trail c n s ns k s') (hfirst : P n)
    (hnext : ∀ n port e m, c.graph.CanTake n port e m → P m) : ∀ x ∈ ns ++ [k], P x := by
  induction h with
  | here n s =>
    intro x hx
    rwa [List.mem_singleton.mp hx]
  | pass _ _ _ _ takes _ ih =>
    intro x hx
    rcases List.mem_cons.mp hx with rfl | hx
    · exact hfirst
    · exact ih (hnext _ _ _ _ takes.1) x hx

/-- Every node of a trail can be reached from its first one. -/
theorem reaches (h : Trail c n s ns k s') :
    ∀ x ∈ ns ++ [k], Relation.ReflTransGen (c.graph.Leads []) n.id x.id := by
  induction h with
  | here n s =>
    intro x hx
    rw [List.mem_singleton.mp hx]
  | pass _ _ _ _ takes _ ih =>
    intro x hx
    rcases List.mem_cons.mp hx with rfl | hx
    · exact .refl
    · exact .head (takes.1.leads takes.mem) (ih x hx)

/-- **No id is met twice** on a trail from an id that begins no endless way. -/
theorem nodup (h : Trail c n s ns k s') (hends : c.graph.Ends [] n.id) :
    ((ns ++ [k]).map (·.id)).Nodup := by
  induction h with
  | here n s => exact List.nodup_singleton _
  | @pass n m k _ _ _ _ _ _ ns _ _ _ _ takes rest ih =>
    have hlead := takes.1.leads takes.mem
    rw [List.cons_append, List.map_cons, List.nodup_cons]
    refine ⟨fun hin => ?_, ih (hends.inv hlead)⟩
    obtain ⟨x, hx, heq⟩ := List.mem_map.mp hin
    refine hends.not_transGen (.head' hlead ?_)
    rw [← heq]
    exact rest.reaches x hx

end Trail

/-! ## 2. Faults of a wrong wiring -/

/-- What a fault says of a node or its setup. -/
def Fault.detail? : Fault → Option String
  | .failed m | .badSetup m => some m
  | _ => none

/-- A fault is about something that it names first, in quotes. -/
def Fault.Quoted (f : Fault) : Prop := ∃ m, f.detail? = some ("'" ++ m)

theorem offChain_quoted (nodeId : String) : (offChain nodeId).Quoted :=
  ⟨nodeId ++ "' is a tool provider and cannot run on the control chain",
    congrArg some String.append_assoc⟩

theorem secondProvider_quoted (consumer : String) (t : NodeType) (first second : String) :
    (Tools.secondProvider consumer t first second).Quoted := by
  refine ⟨consumer ++ ("' has more than one " ++ (definitionOf t).label ++ " provider ('" ++ first
    ++ "' and '" ++ second ++ "')"), congrArg some ?_⟩
  simp only [String.append_assoc]

/-- What a node needs is not named in quotes. -/
theorem needed_ne_quoted {what : String} (h : what ∈ neededTexts) (m : String) :
    what ++ " is empty" ≠ "'" ++ m := by
  intro heq
  have hfirst := congrArg (fun s => s.toList.head?) heq
  simp only [neededTexts, List.mem_cons, List.not_mem_nil, or_false] at h
  rcases h with rfl | rfl | rfl | rfl <;> simp [String.toList_append] at hfirst

/-- A fault of a node that is no provider and whose providers can be collected is in an answer of
the host if it is one of a wrong wiring. -/
theorem NodeFault.quoted_given {c : Frame σ} {nodeId : String} {b : NodeBody} {f : Fault}
    (h : NodeFault c nodeId b f) (hprovider : b.nodeType.isToolProvider = false)
    (hcollect : b.nodeType = .completion → ∀ s r, ∃ tools,
      (Tools.collect c.engine c.graph s c.settings.context nodeId r).1 = .ok tools)
    (hquoted : f.Quoted) : c.host.Gives f := by
  obtain ⟨m, hm⟩ := hquoted
  cases h with
  | service h =>
    cases h with
    | given h => exact h
    | cancelled => cases hm
    | missing => cases hm
  | script => cases hm
  | badPath => cases hm
  | blank hwhat => exact absurd (Option.some.inj hm) (needed_ne_quoted hwhat m)
  | condition v =>
    have hfirst := congrArg (fun s => s.toList.head?) (Option.some.inj hm)
    simp [String.toList_append] at hfirst
  | selector reason =>
    have hfirst := congrArg (fun s => s.toList.head?) (Option.some.inj hm)
    simp [String.toList_append] at hfirst
  | collect hcompletion error =>
    obtain ⟨tools, htools⟩ := hcollect hcompletion _ _
    rw [htools] at error
    cases error
  | offChain h =>
    rw [hprovider] at h
    cases h

/-- A run fails at a node because no more nodes may be executed, or with a fault of this node. -/
theorem Ending.failed_cases {c : Frame σ} {n : Node} {s s' : Session σ} {left : Nat}
    {outcome : RunOutcome} {ended : List Node} (h : Ending c n s left outcome ended s')
    {id m : String} (ho : outcome = .failed id m) :
    (left = 0 ∧ m = "execution limit reached") ∨
      ∃ f, NodeFault c n.id n.data.body f ∧ f.message = m := by
  cases h with
  | cancelled => cases ho
  | exhausted =>
    cases ho
    exact Or.inl ⟨rfl, rfl⟩
  | @failed left f s' _ hfault =>
    refine Or.inr ⟨f, execute_failsOnly c n _ f s' hfault, ?_⟩
    unfold RunOutcome.ofFault at ho
    split at ho
    · cases ho
    · exact (RunOutcome.failed.inj ho).2
  | interrupted => cases ho
  | stopped => cases ho
  | stranded => cases ho

/-! ## 3. Runs -/

/-- **What cannot go wrong in a run** of a graph without errors. -/
structure SoundRun (c : Frame σ) (r : RunResult) : Prop where
  /-- No id is visited twice. -/
  nodup : r.visited.Nodup
  /-- As many steps as there are nodes are enough. -/
  inTime : c.graph.nodes.length ≤ c.settings.maxSteps →
    ∀ id, r.outcome ≠ .failed id "execution limit reached"
  /-- Only nodes that belong on the chain of control are visited. -/
  onChain : ∀ id ∈ r.visited, ∃ n, c.graph.findNode? id = some n ∧
    n.type.isToolProvider = false ∧ n.data.body.nodeType = n.type
  /-- So no node fails because it is a provider, unless the host answers with this fault. -/
  notOffChain : ∀ id other, r.outcome = .failed id (offChain other).message →
    c.host.Gives (offChain other)
  /-- At any time the tools of a node that asks the model can be collected. -/
  served : ∀ n ∈ c.graph.nodes, n.type = .completion → ∀ s memory, ∃ tools,
    (Tools.collect c.engine c.graph s c.settings.context n.id memory).1 = .ok tools
  /-- So no node fails because of a second provider, unless the host answers with this fault. -/
  notSecond : ∀ id consumer t first second,
    r.outcome = .failed id (Tools.secondProvider consumer t first second).message →
    c.host.Gives (Tools.secondProvider consumer t first second)

section

variable {c : Frame σ} (h : c.graph.Sound) {start : Node} (hstart : c.graph.startNode? = some start)
include h hstart

/-- Every node on the way is found by its id and is no provider. -/
theorem Trail.onChain {s s' : Session σ} {ns : List Node} {last : Node}
    (htrail : Trail c start s ns last s') : ∀ n ∈ ns ++ [last],
    c.graph.findNode? n.id = some n ∧ n.type.isToolProvider = false := by
  refine htrail.forall_nodes ⟨?_, ?_⟩ fun n port e m hm => ⟨?_, hm.notProvider⟩
  · exact Graph.findNode?_of_nodup h.ids (List.mem_of_find?_eq_some hstart)
  · have := List.find?_some hstart
    rw [of_decide_eq_true this]
    rfl
  · rw [Graph.findNode?_id hm.target]
    exact hm.target

/-- The ids on the way are distinct, so there are at most as many as nodes. -/
theorem Trail.nodup_of_sound {s s' : Session σ} {ns : List Node} {last : Node}
    (htrail : Trail c start s ns last s') : ((ns ++ [last]).map (·.id)).Nodup ∧
      ns.length + 1 ≤ c.graph.nodes.length := by
  have hends : c.graph.Ends [] start.id := by
    refine Graph.traversal_acc start ?_ start.id (c.graph.start_mem_entered start)
    rw [h.acyclic start hstart]
    exact fun e he => he
  have hnodup := htrail.nodup hends
  refine ⟨hnodup, ?_⟩
  have hlength := Graph.length_le_of_nodup (g := c.graph) hnodup fun id hid => by
    obtain ⟨n, hn, rfl⟩ := List.mem_map.mp hid
    exact ⟨n, Graph.mem_of_findNode? (htrail.onChain h hstart n hn).1, rfl⟩
  rwa [List.length_map, List.length_append] at hlength

/-- The faults of a wrong wiring that the last node of a trail can have come from the host. -/
theorem Trail.quoted_given {s s' : Session σ} {ns : List Node} {last : Node}
    (htrail : Trail c start s ns last s') {f : Fault}
    (hfault : NodeFault c last.id last.data.body f) (hquoted : f.Quoted) : c.host.Gives f := by
  obtain ⟨hfind, hprovider⟩ :=
    htrail.onChain h hstart last (List.mem_append_right _ List.mem_cons_self)
  have hmem := Graph.mem_of_findNode? hfind
  have htype := h.typed last hmem
  refine hfault.quoted_given (htype ▸ hprovider) (fun hcompletion s r => ?_) hquoted
  exact Tools.collect_ok (h.singles last hmem (htype ▸ hcompletion)) r

end

/-- **Runs of graphs without errors** give a result in which none of the faults occurs that the
checks are there to exclude, whatever the state, the scripts, the host and its moment of cancelling
are. -/
theorem runGraph_sound (c : Frame σ) (state : RunState) (world : σ)
    (h : Issue.hasErrors c.graph.issues = false) :
    ∃ r w, runGraph c state world = .ok (r, w) ∧ SoundRun c r := by
  have hsound := Graph.sound_of_noErrors h
  obtain ⟨start, hstart⟩ := hsound.start
  obtain ⟨ns, last, s₁, outcome, ended, s', htrail, -, hend, hrun⟩ :=
    runFrom_trail c c.settings.maxSteps start (.opening c start state world)
  obtain ⟨w, hw⟩ := runGraph_of_start hstart state world hrun
  obtain ⟨hnodup, hlength⟩ := htrail.nodup_of_sound hsound hstart
  have hended : (ns ++ ended).Sublist (ns ++ [last]) := by
    rcases hend.executed with rfl | rfl
    · exact List.Sublist.append_left (List.nil_sublist _) ns
    · exact List.Sublist.refl _
  -- a fault of a wrong wiring is told by its message, and comes from the host
  have hgiven {f : Fault} {id : String} (hquoted : f.Quoted)
      (hmessage : ∀ f', f'.message = f.message → f' = f)
      (ho : outcome = .failed id f.message) : c.host.Gives f := by
    rcases hend.failed_cases ho with ⟨-, hm⟩ | ⟨f', hfault, hm⟩
    · exact absurd hm f.message_ne_exhausted
    · obtain rfl := hmessage f' hm
      exact htrail.quoted_given hsound hstart hfault hquoted
  refine ⟨_, w, hw, ?_, ?_, ?_, ?_, ?_, ?_⟩
  · exact hnodup.sublist (hended.map _)
  · intro hsteps id ho
    rcases hend.failed_cases ho with ⟨hleft, -⟩ | ⟨f, -, hm⟩
    · omega
    · exact f.message_ne_exhausted hm
  · intro id hid
    obtain ⟨n, hn, rfl⟩ := List.mem_map.mp hid
    obtain ⟨hfind, hprovider⟩ := htrail.onChain hsound hstart n (hended.subset hn)
    exact ⟨n, hfind, hprovider, hsound.typed n (Graph.mem_of_findNode? hfind)⟩
  · exact fun id other ho => hgiven (offChain_quoted other) (fun _ => Fault.message_eq_failed) ho
  · exact fun n hn htype s memory => Tools.collect_ok (hsound.singles n hn htype) memory
  · exact fun id consumer t first second ho =>
      hgiven (secondProvider_quoted consumer t first second) (fun _ => Fault.message_eq_badSetup) ho

/-- A node that asks the model, with one knowledge store to search. -/
def assistant : Graph :=
  { nodes := [⟨"start", .start, .initial .start⟩, ⟨"ask", .completion, .initial .completion⟩,
      ⟨"search", .retrieval, .initial .retrieval⟩, ⟨"end", .finish, .initial .finish⟩]
    edges := [{ id := "1", source := "start", target := "ask", targetPort := some PortId.input },
      { id := "2", source := "search", target := "ask", targetPort := some PortId.tools },
      { id := "3", source := "ask", target := "end" }] }

theorem assistant_sound : Issue.hasErrors assistant.issues = false ∧
    ∃ r w, runGraph assistant.trial {} {} = .ok (r, w) ∧ SoundRun assistant.trial r :=
  ⟨by decide +kernel, runGraph_sound assistant.trial {} {} (by decide +kernel)⟩

end Workgraph
