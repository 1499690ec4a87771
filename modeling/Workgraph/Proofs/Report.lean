import Workgraph.Graph.Validity

/-!
# What is reported of a traversal

The issues of a graph come from several checks; those of the traversal from the start node have
codes of their own. So what is reported under one of these codes can be read off the traversal.

* `issuesWith` are the issues with a code.
* `code_notMem_traversalCodes` says that no other check uses a code of the traversal.
* `issuesWith_cycle`, `issuesWith_unreachable` and `issuesWith_noEnd` read the three lists off the
  traversal.
-/

namespace Workgraph.Graph

variable {g : Graph} {start : Node}

/-- The issues of a graph with a code, in the order of the report. -/
def issuesWith (g : Graph) (code : String) : List Issue := g.issues.filter fun i => i.code = code

theorem mem_issuesWith {code : String} {i : Issue} :
    i ∈ g.issuesWith code ↔ i ∈ g.issues ∧ i.code = code := by
  unfold issuesWith
  rw [List.mem_filter, decide_eq_true_iff]

/-- The codes under which a traversal is reported. -/
def traversalCodes : List String := ["missing_reachable_end", "cycle_detected", "unreachable_node"]

/-! ## 1. Codes of the other checks -/

theorem boundCodes_notMem : ∀ d ∈ Definition.bounded, ∀ bounds ∈ d.instances,
    bounds.missingCode ∉ traversalCodes ∧ bounds.excessCode ∉ traversalCodes := by
  decide

theorem instanceCode_notMem {i : Issue} (h : i ∈ g.instanceIssues) : i.code ∉ traversalCodes := by
  obtain ⟨d, hd, hi⟩ := List.mem_flatMap.mp h
  cases hbounds : d.instances with
  | none =>
    rw [hbounds] at hi
    exact absurd hi List.not_mem_nil
  | some bounds =>
    obtain ⟨hmissing, hexcess⟩ := boundCodes_notMem d hd bounds hbounds
    rw [hbounds] at hi
    rcases List.mem_append.mp hi with hi | hi
    · split at hi
      · rw [List.mem_singleton.mp hi]
        exact hmissing
      · exact absurd hi List.not_mem_nil
    · split at hi
      · exact absurd hi List.not_mem_nil
      · obtain ⟨n, -, rfl⟩ := List.mem_map.mp hi
        exact hexcess

theorem nodeCode_notMem {i : Issue} : ∀ {ns : List Node} {earlier : List String},
    i ∈ nodeIssuesAfter earlier ns → i.code ∉ traversalCodes := by
  intro ns
  induction ns with
  | nil => exact fun h => absurd h List.not_mem_nil
  | cons n ns ih =>
    intro earlier h
    rcases List.mem_append.mp h with h | h
    · rcases List.mem_append.mp h with h | h
      all_goals
        split at h
        · rw [List.mem_singleton.mp h]
          simp [traversalCodes]
        · exact absurd h List.not_mem_nil
    · exact ih h

theorem portIssue_code_notMem (e : Edge) (n : Node) (ports : List Port) (explicit : Option String)
    (side : Side) : (portIssue e n ports explicit side).code ∉ traversalCodes := by
  unfold portIssue
  split <;> cases side <;> simp [traversalCodes, Side.name]

theorem portsCode_notMem {e : Edge} {source target : Node} {i : Issue}
    (h : i ∈ portIssues e source target) : i.code ∉ traversalCodes := by
  rcases List.mem_append.mp h with h | h
  · rcases List.mem_append.mp h with h | h
    all_goals
      split at h
      · rw [List.mem_singleton.mp h]
        exact portIssue_code_notMem _ _ _ _ _
      · exact absurd h List.not_mem_nil
  · split at h
    · split at h
      · exact absurd h List.not_mem_nil
      · rw [List.mem_singleton.mp h]
        simp [traversalCodes]
    · exact absurd h List.not_mem_nil

theorem edgeCode_notMem {i : Issue} (h : i ∈ g.edgeIssues) : i.code ∉ traversalCodes := by
  obtain ⟨e, -, h⟩ := List.mem_flatMap.mp h
  rcases List.mem_append.mp h with h | h
  · rcases List.mem_append.mp h with h | h
    all_goals
      split at h
      · rw [List.mem_singleton.mp h]
        simp [traversalCodes]
      · exact absurd h List.not_mem_nil
  · split at h
    · exact portsCode_notMem h
    · exact absurd h List.not_mem_nil

theorem providerCode_notMem {i : Issue} (h : i ∈ g.providerIssues) : i.code ∉ traversalCodes := by
  obtain ⟨consumer, -, h⟩ := List.mem_flatMap.mp h
  obtain ⟨t, -, rfl⟩ := List.mem_map.mp h
  simp [traversalCodes]

/-- No other check uses a code of the traversal. -/
theorem code_notMem_traversalCodes {i : Issue}
    (h : i ∈ g.instanceIssues ++ g.nodeIssues ++ g.edgeIssues ++ g.providerIssues) :
    i.code ∉ traversalCodes := by
  rcases List.mem_append.mp h with h | h
  · rcases List.mem_append.mp h with h | h
    · rcases List.mem_append.mp h with h | h
      · exact instanceCode_notMem h
      · exact nodeCode_notMem h
    · exact edgeCode_notMem h
  · exact providerCode_notMem h

/-- What is reported under a code of the traversal is what the traversal reports. -/
theorem issuesWith_eq (h : g.startNode? = some start) {code : String}
    (hcode : code ∈ traversalCodes) :
    g.issuesWith code = (g.traversalIssues start).filter fun i => i.code = code := by
  unfold issuesWith issues
  rw [List.filter_append, h]
  have hnone : (g.instanceIssues ++ g.nodeIssues ++ g.edgeIssues ++ g.providerIssues).filter
      (fun i => i.code = code) = [] := by
    rw [List.filter_eq_nil_iff]
    intro i hi heq
    exact code_notMem_traversalCodes hi (of_decide_eq_true heq ▸ hcode)
  rw [hnone, List.nil_append]

/-! ## 2. The three lists -/

/-- The warning that a node cannot be reached. -/
def unreachableIssue (n : Node) : Issue :=
  { level := .warning, code := "unreachable_node"
    message := "Node '" ++ n.id ++ "' is not reachable from Start", nodeId := some n.id }

/-- The error that no end can be reached. -/
def noEndIssue (start : Node) : Issue :=
  { level := .error, code := "missing_reachable_end"
    message := "No End node is reachable from Start", nodeId := some start.id }

/-- Whether an end was reached. -/
def reachesEnd (g : Graph) (t : Traversal) : Bool :=
  g.nodes.any fun n => n.type = .finish && decide (n.id ∈ t.entered)

/-- The nodes that should have been reached and were not. -/
def missed (g : Graph) (t : Traversal) : List Node :=
  g.nodes.filter fun n => !n.type.isPure && !n.type.isToolProvider && !decide (n.id ∈ t.entered)

theorem traversalIssues_eq (g : Graph) (start : Node) : g.traversalIssues start =
    (if g.reachesEnd (g.traversal start) then [] else [noEndIssue start]) ++
      (g.traversal start).closing.reverse.map cycleIssue ++
      (g.missed (g.traversal start)).map unreachableIssue := rfl

/-- Of issues that share a code, all are found under it. -/
theorem filter_map_code {α : Type} {f : α → Issue} {code : String} (h : ∀ a, (f a).code = code)
    (as : List α) : (as.map f).filter (fun i => i.code = code) = as.map f := by
  rw [List.filter_eq_self]
  intro i hi
  obtain ⟨a, -, rfl⟩ := List.mem_map.mp hi
  exact decide_eq_true (h a)

/-- Of issues that share a code, none is found under another one. -/
theorem filter_map_code_of_ne {α : Type} {f : α → Issue} {code other : String}
    (h : ∀ a, (f a).code = other) (hne : other ≠ code) (as : List α) :
    (as.map f).filter (fun i => i.code = code) = [] := by
  rw [List.filter_eq_nil_iff]
  intro i hi heq
  obtain ⟨a, -, rfl⟩ := List.mem_map.mp hi
  exact hne ((h a).symm.trans (of_decide_eq_true heq))

theorem code_cycleIssue (e : Edge) : (cycleIssue e).code = "cycle_detected" := rfl

theorem code_unreachableIssue (n : Node) : (unreachableIssue n).code = "unreachable_node" := rfl

/-- A warning is given for every node that was missed. -/
theorem issuesWith_unreachable (h : g.startNode? = some start) :
    g.issuesWith "unreachable_node" = (g.missed (g.traversal start)).map unreachableIssue := by
  rw [issuesWith_eq h (by decide), traversalIssues_eq, List.filter_append, List.filter_append,
    filter_map_code code_unreachableIssue, filter_map_code_of_ne code_cycleIssue (by decide)]
  split <;> rfl

/-- The missing end is reported when no end was reached. -/
theorem issuesWith_noEnd (h : g.startNode? = some start) : g.issuesWith "missing_reachable_end" =
    if g.reachesEnd (g.traversal start) then [] else [noEndIssue start] := by
  rw [issuesWith_eq h (by decide), traversalIssues_eq, List.filter_append, List.filter_append,
    filter_map_code_of_ne code_cycleIssue (by decide),
    filter_map_code_of_ne code_unreachableIssue (by decide)]
  split <;> rfl

end Workgraph.Graph
