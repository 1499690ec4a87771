import Mathlib.Data.List.Nodup
import Mathlib.Data.List.Perm.Subperm
import Workgraph.Graph

/-!
# Looking up nodes

* `findNode?` and `findLastNode?` find a node of the graph that has the id, if there is one; when no
  id is used twice they find the same node.
* `Graph.unmet` counts the nodes whose id is not in a list. It falls with every id of a node that is
  added to the list, and so bounds every way on which no id is met twice.
-/

namespace Workgraph.Graph

variable {g : Graph} {id : String} {n : Node}

/-! ## 1. The node with an id -/

theorem findNode?_id (h : g.findNode? id = some n) : n.id = id := by
  have := List.find?_some h
  exact of_decide_eq_true this

theorem mem_of_findNode? (h : g.findNode? id = some n) : n ∈ g.nodes := List.mem_of_find?_eq_some h

theorem findLastNode?_id (h : g.findLastNode? id = some n) : n.id = id := by
  have := List.find?_some h
  exact of_decide_eq_true this

theorem mem_of_findLastNode? (h : g.findLastNode? id = some n) : n ∈ g.nodes :=
  List.mem_reverse.mp (List.mem_of_find?_eq_some h)

theorem hasNode_iff : g.hasNode id = true ↔ ∃ n ∈ g.nodes, n.id = id := by
  unfold hasNode
  rw [List.any_eq_true]
  exact exists_congr fun n => and_congr_right fun _ => decide_eq_true_iff

theorem hasNode_of_findNode? (h : g.findNode? id = some n) : g.hasNode id = true :=
  hasNode_iff.mpr ⟨n, mem_of_findNode? h, findNode?_id h⟩

theorem hasNode_of_startNode? (h : g.startNode? = some n) : g.hasNode n.id = true :=
  hasNode_iff.mpr ⟨n, List.mem_of_find?_eq_some h, rfl⟩

theorem exists_findNode? (h : g.hasNode id = true) : ∃ n, g.findNode? id = some n := by
  obtain ⟨n, hn, hid⟩ := hasNode_iff.mp h
  have hsome : (g.findNode? id).isSome = true := by
    unfold findNode?
    rw [List.find?_isSome]
    exact ⟨n, hn, decide_eq_true hid⟩
  exact Option.isSome_iff_exists.mp hsome

/-- An id that some node has is found. -/
theorem exists_findLastNode? (h : g.hasNode id = true) : ∃ n, g.findLastNode? id = some n := by
  obtain ⟨n, hn, hid⟩ := hasNode_iff.mp h
  have hsome : (g.findLastNode? id).isSome = true := by
    unfold findLastNode?
    rw [List.find?_isSome]
    exact ⟨n, List.mem_reverse.mpr hn, decide_eq_true hid⟩
  exact Option.isSome_iff_exists.mp hsome

/-! ## 2. Nodes not met yet -/

/-- The number of nodes whose id is not among those met. -/
def unmet (g : Graph) (met : List String) : Nat := (g.nodes.filter fun n => n.id ∉ met).length

theorem unmet_le (g : Graph) (met : List String) : g.unmet met ≤ g.nodes.length :=
  List.length_filter_le _ _

/-- The more ids were met, the fewer nodes are left. -/
theorem unmet_anti {met met' : List String} (h : ∀ id ∈ met, id ∈ met') :
    g.unmet met' ≤ g.unmet met := by
  unfold unmet
  rw [← List.countP_eq_length_filter, ← List.countP_eq_length_filter]
  refine List.countP_mono_left fun n _ hn => ?_
  have hn := of_decide_eq_true hn
  exact decide_eq_true fun hmet => hn (h _ hmet)

theorem unmet_lt {met : List String} (hn : n ∈ g.nodes) (hid : n.id ∉ met) :
    g.unmet (n.id :: met) < g.unmet met := by
  have hsplit : (g.nodes.filter fun m => m.id ∉ n.id :: met) =
      (g.nodes.filter fun m => m.id ∉ met).filter fun m => m.id ≠ n.id := by
    rw [List.filter_filter]
    refine List.filter_congr fun m _ => ?_
    simp only [List.mem_cons, not_or, Bool.decide_and]
  unfold unmet
  rw [hsplit, List.length_filter_lt_length_iff_exists]
  refine ⟨n, List.mem_filter.mpr ⟨hn, decide_eq_true hid⟩, ?_⟩
  simp

theorem unmet_lt_of_findNode? {met : List String} (h : g.findNode? id = some n) (hid : id ∉ met) :
    g.unmet (id :: met) < g.unmet met := by
  obtain rfl := findNode?_id h
  exact unmet_lt (mem_of_findNode? h) hid

/-- Ids of nodes of which none occurs twice are at most as many as the nodes. -/
theorem length_le_of_nodup {ids : List String} (hnodup : ids.Nodup)
    (h : ∀ id ∈ ids, ∃ n ∈ g.nodes, n.id = id) : ids.length ≤ g.nodes.length := by
  have hsub : ids ⊆ g.nodes.map (·.id) := by
    intro id hid
    obtain ⟨n, hn, rfl⟩ := h id hid
    exact List.mem_map_of_mem hn
  have := (List.subperm_of_subset hnodup hsub).length_le
  rwa [List.length_map] at this

/-! ## 3. Ids used once -/

/-- When no id is used twice, an id leads to the one node that has it. -/
theorem findNode?_of_nodup (h : (g.nodes.map (·.id)).Nodup) (hn : n ∈ g.nodes) :
    g.findNode? n.id = some n := by
  cases hfind : g.findNode? n.id with
  | none =>
    have := List.find?_eq_none.mp hfind n hn
    simp at this
  | some m =>
    have := List.inj_on_of_nodup_map h (mem_of_findNode? hfind) hn (findNode?_id hfind)
    rw [this]

end Workgraph.Graph
