import Mathlib.Data.List.Find
import Workgraph.Graph.Plan
import Workgraph.Proofs.Departure
import Workgraph.Proofs.Lookup

/-!
# Graphs stored in another order

A graph is stored as lists, and what is found in a list may depend on its order. It does not when no
id is used twice: every lookup then finds the only thing there is, and every sort is one by a total
order.

* `Graph.Reorders` says that two graphs hold the same nodes and the same edges, each in any order;
  `Graph.Distinct` says that no id is used twice and that there is one start node at most.
* Lookups and sorted lists are the same for both (`findNode?_reorder`, `routes_reorder` and their
  likes), and so is what is built from them: walks, traversals and plans.
* What is listed in the order of storage is the same up to order (`issues_reorder`).
-/

namespace Workgraph

/-! ## 1. Sorting -/

/-- A sorted list does not show how it was ordered before, if no two of its elements are equal for
the order. -/
theorem mergeSort_reorder {α : Type} {le : α → α → Bool} (trans : ∀ a b c, le a b → le b c → le a c)
    (total : ∀ a b, le a b || le b a) {l l' : List α} (h : l'.Perm l)
    (antisymm : ∀ a ∈ l, ∀ b ∈ l, le a b → le b a → a = b) :
    l'.mergeSort le = l.mergeSort le := by
  have hperm : (l'.mergeSort le).Perm (l.mergeSort le) :=
    ((List.mergeSort_perm l' le).trans h).trans (List.mergeSort_perm l le).symm
  refine hperm.eq_of_pairwise (fun a b ha hb => ?_) (List.pairwise_mergeSort trans total l')
    (List.pairwise_mergeSort trans total l)
  exact antisymm a (h.mem_iff.mp (List.mem_mergeSort.mp ha)) b (List.mem_mergeSort.mp hb)

/-- Texts that come before each other by a key, and then by themselves, are the same. -/
theorem eq_of_keyed {key key' id id' : String} (h : key < key' ∨ (key = key' ∧ id ≤ id'))
    (h' : key' < key ∨ (key' = key ∧ id' ≤ id)) : id = id' := by
  rcases h with hlt | ⟨hkey, hid⟩
  · rcases h' with hlt' | ⟨hkey', -⟩
    · exact absurd hlt' (String.lt_asymm hlt)
    · rw [hkey'] at hlt
      exact absurd hlt (String.lt_irrefl _)
  · rcases h' with hlt' | ⟨-, hid'⟩
    · rw [hkey] at hlt'
      exact absurd hlt' (String.lt_irrefl _)
    · exact String.le_antisymm hid hid'

/-- Routes that come before each other are along edges with one id. -/
theorem Route.before_antisymm {a b : Route} (h : before a b = true) (h' : before b a = true) :
    a.edge.id = b.edge.id := by
  rcases (before_iff a b).mp h with ⟨hne, hle⟩ | ⟨heq, h⟩
  · rcases (before_iff b a).mp h' with ⟨-, hle'⟩ | ⟨heq', -⟩
    · exact absurd (indexLe_antisymm hle hle') hne
    · exact absurd heq'.symm hne
  · rcases (before_iff b a).mp h' with ⟨hne', -⟩ | ⟨-, h'⟩
    · exact absurd heq.symm hne'
    · exact eq_of_keyed h h'

/-- The order of edges by id. -/
theorem Edge.idLe_trans (a b c : Edge) (h : decide (a.id ≤ b.id) = true)
    (h' : decide (b.id ≤ c.id) = true) : decide (a.id ≤ c.id) = true :=
  decide_eq_true (String.le_trans (of_decide_eq_true h) (of_decide_eq_true h'))

theorem Edge.idLe_total (a b : Edge) : (decide (a.id ≤ b.id) || decide (b.id ≤ a.id)) = true := by
  rw [Bool.or_eq_true, decide_eq_true_iff, decide_eq_true_iff]
  exact String.le_total a.id b.id

namespace Graph

/-- The order of provider edges, key by key. -/
theorem providerBefore_iff (a b : Edge) : providerBefore a b = true ↔
    a.source < b.source ∨ (a.source = b.source ∧ a.id ≤ b.id) := by
  unfold providerBefore
  by_cases hs : a.source = b.source
  · simp [hs]
  · simp [hs]

theorem providerBefore_trans (a b c : Edge) (h : providerBefore a b = true)
    (h' : providerBefore b c = true) : providerBefore a c = true := by
  rw [providerBefore_iff] at h h' ⊢
  rcases h with hs | ⟨hs, hid⟩
  · rcases h' with hs' | ⟨hs', -⟩
    · exact Or.inl (String.lt_trans hs hs')
    · exact Or.inl (hs' ▸ hs)
  · rcases h' with hs' | ⟨hs', hid'⟩
    · exact Or.inl (hs ▸ hs')
    · exact Or.inr ⟨hs.trans hs', String.le_trans hid hid'⟩

theorem providerBefore_total (a b : Edge) : (providerBefore a b || providerBefore b a) = true := by
  rw [Bool.or_eq_true, providerBefore_iff, providerBefore_iff]
  by_cases hs : a.source = b.source
  · rcases String.le_total a.id b.id with hid | hid
    · exact Or.inl (Or.inr ⟨hs, hid⟩)
    · exact Or.inr (Or.inr ⟨hs.symm, hid⟩)
  · rcases String.le_total a.source b.source with hle | hle
    · exact Or.inl (Or.inl (Std.lt_of_le_of_ne hle hs))
    · exact Or.inr (Or.inl (Std.lt_of_le_of_ne hle (Ne.symm hs)))

theorem providerBefore_antisymm {a b : Edge} (h : providerBefore a b = true)
    (h' : providerBefore b a = true) : a.id = b.id :=
  eq_of_keyed ((providerBefore_iff a b).mp h) ((providerBefore_iff b a).mp h')

/-! ## 2. Graphs that differ by their order -/

/-- Two graphs hold the same nodes and the same edges. -/
structure Reorders (g g' : Graph) : Prop where
  nodes : g'.nodes.Perm g.nodes
  edges : g'.edges.Perm g.edges

/-- No id is used twice, and a run can begin at one node at most. -/
structure Distinct (g : Graph) : Prop where
  nodeIds : (g.nodes.map (·.id)).Nodup
  edgeIds : (g.edges.map (·.id)).Nodup
  start : (g.nodesOfType .start).length ≤ 1

namespace Distinct

variable {g : Graph} (hd : g.Distinct)

include hd

theorem node_eq {n m : Node} (hn : n ∈ g.nodes) (hm : m ∈ g.nodes) (h : n.id = m.id) : n = m :=
  List.inj_on_of_nodup_map hd.nodeIds hn hm h

theorem edge_eq {e e' : Edge} (he : e ∈ g.edges) (he' : e' ∈ g.edges) (h : e.id = e'.id) : e = e' :=
  List.inj_on_of_nodup_map hd.edgeIds he he' h

theorem start_eq {n m : Node} (hn : n ∈ g.nodes) (hm : m ∈ g.nodes) (hstart : n.type = .start)
    (hstart' : m.type = .start) : n = m := by
  have hn : n ∈ g.nodesOfType .start := List.mem_filter.mpr ⟨hn, decide_eq_true hstart⟩
  have hm : m ∈ g.nodesOfType .start := List.mem_filter.mpr ⟨hm, decide_eq_true hstart'⟩
  have hlength := hd.start
  match hlist : g.nodesOfType .start with
  | [] =>
    rw [hlist] at hn
    cases hn
  | [k] =>
    rw [hlist, List.mem_singleton] at hn hm
    rw [hn, hm]
  | _ :: _ :: _ =>
    rw [hlist, List.length_cons, List.length_cons] at hlength
    omega

end Distinct

section

variable {g g' : Graph} (h : g.Reorders g')

include h

theorem length_nodes_reorder : g'.nodes.length = g.nodes.length := h.nodes.length_eq

theorem length_edges_reorder : g'.edges.length = g.edges.length := h.edges.length_eq

theorem hasNode_reorder (id : String) : g'.hasNode id = g.hasNode id := h.nodes.any_eq

theorem incoming_reorder (id : String) : (g'.incoming id).Perm (g.incoming id) := h.edges.filter _

theorem outgoing_reorder (id : String) : (g'.outgoing id).Perm (g.outgoing id) := h.edges.filter _

theorem nodesOfType_reorder (t : NodeType) : (g'.nodesOfType t).Perm (g.nodesOfType t) :=
  h.nodes.filter _

variable (hd : g.Distinct)

include hd

/-! ## 3. Lookups -/

theorem findNode?_reorder (id : String) : g'.findNode? id = g.findNode? id := by
  refine (List.find?_eq_find?_of_perm h.nodes.symm ?_).symm
  intro n ⟨hn, hid⟩ m ⟨hm, hid'⟩
  exact hd.node_eq hn hm ((of_decide_eq_true hid).trans (of_decide_eq_true hid').symm)

theorem findLastNode?_reorder (id : String) : g'.findLastNode? id = g.findLastNode? id := by
  have hperm : g.nodes.reverse.Perm g'.nodes.reverse :=
    (g.nodes.reverse_perm.trans h.nodes.symm).trans g'.nodes.reverse_perm.symm
  refine (List.find?_eq_find?_of_perm hperm ?_).symm
  intro n ⟨hn, hid⟩ m ⟨hm, hid'⟩
  exact hd.node_eq (List.mem_reverse.mp hn) (List.mem_reverse.mp hm)
    ((of_decide_eq_true hid).trans (of_decide_eq_true hid').symm)

theorem startNode?_reorder : g'.startNode? = g.startNode? := by
  refine (List.find?_eq_find?_of_perm h.nodes.symm ?_).symm
  intro n ⟨hn, hstart⟩ m ⟨hm, hstart'⟩
  exact hd.start_eq hn hm (of_decide_eq_true hstart) (of_decide_eq_true hstart')

/-! ## 4. Edges in order -/

theorem routes_reorder (n : Node) : g'.routes n = g.routes n := by
  refine mergeSort_reorder Route.before_trans Route.before_total
    ((outgoing_reorder h n.id).map (routeOf n)) fun a ha b hb hab hba => ?_
  obtain ⟨e, he, rfl⟩ := List.mem_map.mp ha
  obtain ⟨e', he', rfl⟩ := List.mem_map.mp hb
  have hid : e.id = e'.id := Route.before_antisymm hab hba
  rw [hd.edge_eq (List.mem_of_mem_filter he) (List.mem_of_mem_filter he') hid]

theorem edgeInto?_reorder (id port : String) : g'.edgeInto? id port = g.edgeInto? id port := by
  unfold edgeInto?
  rw [mergeSort_reorder Edge.idLe_trans Edge.idLe_total ((incoming_reorder h id).filter _)]
  intro a ha b hb hab hba
  have hid : a.id = b.id := String.le_antisymm (of_decide_eq_true hab) (of_decide_eq_true hba)
  have hmem {e : Edge} (he : e ∈ (g.incoming id).filter (Edge.names port)) : e ∈ g.edges :=
    List.mem_of_mem_filter (List.mem_of_mem_filter he)
  exact hd.edge_eq (hmem ha) (hmem hb) hid

theorem providerEdges_reorder (consumer : String) :
    g'.providerEdges consumer = g.providerEdges consumer := by
  refine mergeSort_reorder providerBefore_trans providerBefore_total
    ((incoming_reorder h consumer).filter _) fun a ha b hb hab hba => ?_
  have hid : a.id = b.id := providerBefore_antisymm hab hba
  have hmem {e : Edge} (he : e ∈ (g.incoming consumer).filter fun e =>
      e.targetPort = some PortId.tools) : e ∈ g.edges :=
    List.mem_of_mem_filter (List.mem_of_mem_filter he)
  exact hd.edge_eq (hmem ha) (hmem hb) hid

/-! ## 5. Walks and plans -/

theorem targets_reorder (n : Node) : g'.targets n = g.targets n := by
  unfold targets
  rw [routes_reorder h hd]
  simp only [findNode?_reorder h hd]

theorem walk_reorder (fuel : Nat) : ∀ (seen : List String) (stack : List Node),
    g'.walk fuel seen stack = g.walk fuel seen stack := by
  induction fuel with
  | zero => exact fun _ _ => rfl
  | succ fuel ih =>
    intro seen stack
    cases stack with
    | nil => rfl
    | cons n stack =>
      unfold walk
      dsimp only
      rw [targets_reorder h hd, ih, ih]

/-- **The plan has the same steps** in the same order. -/
theorem plan_steps_reorder : g'.plan.steps = g.plan.steps := by
  have hnodes : g'.planNodes = g.planNodes := by
    unfold planNodes
    rw [startNode?_reorder h hd, length_edges_reorder h]
    cases g.startNode? with
    | none => rfl
    | some start => exact walk_reorder h hd _ _ _
  unfold plan
  dsimp only
  rw [hnodes]

/-! ## 6. Traversals -/

theorem successors_reorder (n : Node) : g'.successors n = g.successors n := by
  unfold successors
  rw [routes_reorder h hd]
  simp only [hasNode_reorder h]

theorem explore_reorder (fuel : Nat) : ∀ (trail : List String) (n : Node) (t : Traversal),
    g'.explore fuel trail n t = g.explore fuel trail n t := by
  induction fuel with
  | zero => exact fun _ _ _ => rfl
  | succ fuel ih =>
    intro trail n t
    unfold explore
    rw [successors_reorder h hd]
    simp only [findLastNode?_reorder h hd, ih]

theorem traversal_reorder (start : Node) : g'.traversal start = g.traversal start := by
  unfold traversal
  rw [length_nodes_reorder h]
  exact explore_reorder h hd _ _ _ _

end

/-! ## 7. Checks -/

/-- Only the number of start nodes is bounded, and one is allowed. -/
theorem bounded_start : ∀ d ∈ Definition.bounded, ∀ bounds ∈ d.instances,
    d.type = .start ∧ ∀ max ∈ bounds.max, 1 ≤ max := by
  decide

/-- When no id is used twice, what is wrong with a node does not depend on the nodes before it. -/
theorem nodeIssuesAfter_eq_flatMap : ∀ {ns : List Node} {earlier : List String},
    (ns.map (·.id)).Nodup → (∀ n ∈ ns, n.id ∉ earlier) →
    nodeIssuesAfter earlier ns = ns.flatMap (nodeIssuesOf []) := by
  intro ns
  induction ns with
  | nil => exact fun _ _ => rfl
  | cons n ns ih =>
    intro earlier hnodup hfresh
    have hnodup := List.nodup_cons.mp hnodup
    have hrest : ∀ m ∈ ns, m.id ∉ n.id :: earlier := by
      intro m hm hmem
      rcases List.mem_cons.mp hmem with heq | hmem
      · have hmem : m.id ∈ ns.map (·.id) := List.mem_map_of_mem hm
        rw [heq] at hmem
        exact hnodup.1 hmem
      · exact hfresh m (List.mem_cons_of_mem _ hm) hmem
    have hn : nodeIssuesOf earlier n = nodeIssuesOf [] n := by
      unfold nodeIssuesOf
      rw [if_neg (hfresh n List.mem_cons_self), if_neg List.not_mem_nil]
    rw [nodeIssuesAfter, ih hnodup.2 hrest, hn, List.flatMap_cons]

section

variable {g g' : Graph} (h : g.Reorders g') (hd : g.Distinct)

include h hd

/-- The number of instances is the same, and one start node is not too many. -/
theorem instanceIssues_reorder : g'.instanceIssues = g.instanceIssues := by
  unfold instanceIssues
  refine List.flatMap_congr fun d hmem => ?_
  cases hbounds : d.instances with
  | none => rfl
  | some bounds =>
    obtain ⟨htype, hmax⟩ := bounded_start d hmem bounds hbounds
    have hlength := (nodesOfType_reorder h .start).length_eq
    have hstart := hd.start
    dsimp only
    unfold instanceIssuesOf
    rw [htype]
    dsimp only
    rw [hlength]
    cases hbound : bounds.max with
    | none => rfl
    | some max =>
      have hone := hmax max hbound
      dsimp only
      -- excess nodes would be listed in the order of storage, but there are none
      rw [List.drop_eq_nil_of_le (by omega), List.drop_eq_nil_of_le (by omega)]

theorem nodeIssues_reorder : g'.nodeIssues.Perm g.nodeIssues := by
  have hnodup : (g'.nodes.map (·.id)).Nodup := ((h.nodes.map (·.id)).nodup_iff).mpr hd.nodeIds
  unfold nodeIssues
  rw [nodeIssuesAfter_eq_flatMap hd.nodeIds fun _ _ => List.not_mem_nil,
    nodeIssuesAfter_eq_flatMap hnodup fun _ _ => List.not_mem_nil]
  exact h.nodes.flatMap_right _

theorem edgeIssues_reorder : g'.edgeIssues.Perm g.edgeIssues := by
  have hissues : g'.edgeIssuesOf = g.edgeIssuesOf := by
    funext e
    unfold edgeIssuesOf
    rw [findLastNode?_reorder h hd, findLastNode?_reorder h hd]
  unfold edgeIssues
  rw [hissues]
  exact h.edges.flatMap_right _

theorem singleProviders_reorder (consumer : String) :
    g'.singleProviders consumer = g.singleProviders consumer := by
  unfold singleProviders
  rw [providerEdges_reorder h hd]
  simp only [findNode?_reorder h hd]

theorem providerIssues_reorder : g'.providerIssues.Perm g.providerIssues := by
  unfold providerIssues
  simp only [singleProviders_reorder h hd]
  exact (nodesOfType_reorder h .completion).flatMap_right _

theorem traversalIssues_reorder (start : Node) :
    (g'.traversalIssues start).Perm (g.traversalIssues start) := by
  unfold traversalIssues
  rw [traversal_reorder h hd]
  dsimp only
  rw [h.nodes.any_eq]
  exact .append (.refl _) ((h.nodes.filter _).map _)

/-- **The issues are the same** up to order. -/
theorem issues_reorder : g'.issues.Perm g.issues := by
  have hinstances : g'.instanceIssues.Perm g.instanceIssues := .of_eq (instanceIssues_reorder h hd)
  have hnodes := hinstances.append (nodeIssues_reorder h hd)
  have hedges := hnodes.append (edgeIssues_reorder h hd)
  have hproviders := hedges.append (providerIssues_reorder h hd)
  unfold issues
  rw [startNode?_reorder h hd]
  refine hproviders.append ?_
  cases g.startNode? with
  | none => exact .refl _
  | some start => exact traversalIssues_reorder h hd start

end

end Graph

end Workgraph
