import Workgraph.Graph.Plan
import Workgraph.Proofs.Descent
import Workgraph.Proofs.Report
import Workgraph.Proofs.SoundRun

/-!
# Plans, checks and runs agree on what can be reached

A plan works off a stack of nodes, the checks go down from the start, and a run follows the chain of
control. All three stay within the ids that the start reaches, whatever the graph, and the first two
find all of them.

* `pending` counts the edges out of ids that a plan has not seen; together with the stack it falls
  with every node taken from it, and so bounds the work (`pending_cons`).
* `walk_reaches`, `nodup_walk` and `walk_closed` say what a plan lists from a stack on: reachable
  nodes, none twice, and with each node those to which it is linked.
* `mem_planIds_iff` says that the nodes of a plan are those that can be reached.
* `AgreesOnReach` is the account of plan, report and runs together.
-/

namespace Workgraph

namespace Graph

variable {g : Graph} {start : String}

/-! ## 1. One node of a plan -/

/-- The number of edges out of ids not seen yet. -/
def pending (g : Graph) (seen : List String) : Nat :=
  g.edges.countP fun e => e.source ∉ seen

theorem mem_targets {n m : Node} :
    m ∈ g.targets n ↔ ∃ e ∈ g.edges, e.source = n.id ∧ g.findNode? e.target = some m := by
  unfold targets routes
  rw [List.mem_filterMap]
  constructor
  · rintro ⟨r, hr, hfind⟩
    rw [List.mem_mergeSort] at hr
    obtain ⟨e, he, rfl⟩ := List.mem_map.mp hr
    obtain ⟨he, hsource⟩ := List.mem_filter.mp he
    exact ⟨e, he, of_decide_eq_true hsource, hfind⟩
  · rintro ⟨e, he, hsource, hfind⟩
    have hout : e ∈ g.outgoing n.id := List.mem_filter.mpr ⟨he, decide_eq_true hsource⟩
    exact ⟨routeOf n e, List.mem_mergeSort.mpr (List.mem_map_of_mem hout), hfind⟩

theorem length_routes (g : Graph) (n : Node) :
    (g.routes n).length = g.edges.countP fun e => e.source = n.id := by
  rw [← List.length_map (·.edge), (g.routes_perm n).length_eq, List.countP_eq_length_filter]
  rfl

theorem length_targets_le (g : Graph) (n : Node) :
    (g.targets n).length ≤ g.edges.countP fun e => e.source = n.id := by
  rw [← g.length_routes n]
  exact List.length_filterMap_le _ _

/-- An id that is seen for the first time takes its edges out of those that are pending. -/
theorem pending_cons {id : String} {seen : List String} (h : id ∉ seen) :
    g.pending (id :: seen) + g.edges.countP (fun e => e.source = id) = g.pending seen := by
  unfold pending
  induction g.edges with
  | nil => rfl
  | cons e es ih =>
    rw [List.countP_cons, List.countP_cons, List.countP_cons]
    simp only [List.mem_cons, not_or, decide_eq_true_eq] at ih ⊢
    by_cases hid : e.source = id
    · have hout : e.source ∉ seen := hid ▸ h
      rw [if_neg fun hne => hne.1 hid, if_pos hid, if_pos hout]
      omega
    · by_cases hseen : e.source ∈ seen
      · rw [if_neg fun hne => hne.2 hseen, if_neg hid, if_neg (not_not_intro hseen)]
        omega
      · rw [if_pos ⟨hid, hseen⟩, if_neg hid, if_pos hseen]
        omega

/-! ## 2. The nodes of a plan -/

theorem walk_of_mem {fuel : Nat} {seen : List String} {n : Node} {stack : List Node}
    (h : n.id ∈ seen) : g.walk (fuel + 1) seen (n :: stack) = g.walk fuel seen stack := by
  rw [walk, if_pos h]

theorem walk_of_notMem {fuel : Nat} {seen : List String} {n : Node} {stack : List Node}
    (h : n.id ∉ seen) : g.walk (fuel + 1) seen (n :: stack) = n :: g.walk fuel (n.id :: seen)
      ((g.targets n).filter (·.id ∉ n.id :: seen) ++ stack) := by
  rw [walk, if_neg h]

/-- A plan lists nodes that can be reached and were not seen before. -/
theorem walk_reaches (hstart : g.hasNode start = true) : ∀ fuel seen stack,
    (∀ n ∈ stack, g.Reaches start n.id) →
    ∀ n ∈ g.walk fuel seen stack, g.Reaches start n.id ∧ n.id ∉ seen := by
  intro fuel
  induction fuel with
  | zero => exact fun _ _ _ _ hn => absurd hn List.not_mem_nil
  | succ fuel ih =>
    intro seen stack hstack
    cases stack with
    | nil => exact fun _ hn => absurd hn List.not_mem_nil
    | cons n stack =>
      have hrest : ∀ m ∈ stack, g.Reaches start m.id :=
        fun m hm => hstack m (List.mem_cons_of_mem _ hm)
      by_cases hseen : n.id ∈ seen
      · rw [walk_of_mem hseen]
        exact ih seen stack hrest
      · have hn := hstack n List.mem_cons_self
        have hpushed : ∀ m ∈ (g.targets n).filter (·.id ∉ n.id :: seen) ++ stack,
            g.Reaches start m.id := by
          intro m hm
          rcases List.mem_append.mp hm with hm | hm
          · obtain ⟨e, he, hsource, hfind⟩ := mem_targets.mp (List.mem_filter.mp hm).1
            have hid := findNode?_id hfind
            exact hn.tail
              ⟨e, he, hsource, hid.symm, hn.hasNode hstart, hid ▸ hasNode_of_findNode? hfind⟩
          · exact hrest m hm
        rw [walk_of_notMem hseen]
        intro m hm
        rcases List.mem_cons.mp hm with rfl | hm
        · exact ⟨hn, hseen⟩
        · obtain ⟨hreach, hnew⟩ := ih (n.id :: seen) _ hpushed m hm
          exact ⟨hreach, fun hmem => hnew (List.mem_cons_of_mem _ hmem)⟩

/-- A plan lists no id twice. -/
theorem nodup_walk : ∀ fuel seen stack,
    ((g.walk fuel seen stack).map (·.id)).Nodup ∧ ∀ n ∈ g.walk fuel seen stack, n.id ∉ seen := by
  intro fuel
  induction fuel with
  | zero => exact fun _ _ => ⟨List.nodup_nil, fun _ hn => absurd hn List.not_mem_nil⟩
  | succ fuel ih =>
    intro seen stack
    cases stack with
    | nil => exact ⟨List.nodup_nil, fun _ hn => absurd hn List.not_mem_nil⟩
    | cons n stack =>
      by_cases hseen : n.id ∈ seen
      · rw [walk_of_mem hseen]
        exact ih seen stack
      · rw [walk_of_notMem hseen]
        obtain ⟨hnodup, hnew⟩ := ih (n.id :: seen)
          ((g.targets n).filter (·.id ∉ n.id :: seen) ++ stack)
        constructor
        · refine List.nodup_cons.mpr ⟨fun hmem => ?_, hnodup⟩
          obtain ⟨m, hm, hid⟩ := List.mem_map.mp hmem
          exact hnew m hm (hid ▸ List.mem_cons_self)
        · intro m hm
          rcases List.mem_cons.mp hm with rfl | hm
          · exact hseen
          · exact fun hmem => hnew m hm (List.mem_cons_of_mem _ hmem)

/-- With fuel for the stack and the pending edges, a plan lists what is on the stack and with each
node those to which it is linked, unless they were seen before. -/
theorem walk_closed : ∀ fuel seen stack, stack.length + g.pending seen ≤ fuel →
    (∀ n ∈ stack, n.id ∈ seen ∨ n.id ∈ (g.walk fuel seen stack).map (·.id)) ∧
    ∀ n ∈ g.walk fuel seen stack, ∀ next, g.Links n.id next →
      next ∈ seen ∨ next ∈ (g.walk fuel seen stack).map (·.id) := by
  intro fuel
  induction fuel with
  | zero =>
    intro seen stack hfuel
    have hnil : stack = [] := List.eq_nil_of_length_eq_zero (by omega)
    subst hnil
    exact ⟨fun _ hn => absurd hn List.not_mem_nil, fun _ hn => absurd hn List.not_mem_nil⟩
  | succ fuel ih =>
    intro seen stack hfuel
    cases stack with
    | nil => exact ⟨fun _ hn => absurd hn List.not_mem_nil, fun _ hn => absurd hn List.not_mem_nil⟩
    | cons n stack =>
      rw [List.length_cons] at hfuel
      by_cases hseen : n.id ∈ seen
      · rw [walk_of_mem hseen]
        obtain ⟨hstack, hclosed⟩ := ih seen stack (by omega)
        refine ⟨fun m hm => ?_, hclosed⟩
        rcases List.mem_cons.mp hm with rfl | hm
        · exact Or.inl hseen
        · exact hstack m hm
      · rw [walk_of_notMem hseen]
        have hpending := g.pending_cons hseen
        have htargets := g.length_targets_le n
        obtain ⟨hstack, hclosed⟩ := ih (n.id :: seen)
          ((g.targets n).filter (·.id ∉ n.id :: seen) ++ stack) (by
            have hfilter := List.length_filter_le (fun m => m.id ∉ n.id :: seen) (g.targets n)
            rw [List.length_append]
            omega)
        -- `n` has been seen from here on because it is listed
        have hlisted {id : String} {ids : List String} (h : id ∈ n.id :: seen ∨ id ∈ ids) :
            id ∈ seen ∨ id ∈ n.id :: ids := by
          rcases h with h | h
          · rcases List.mem_cons.mp h with rfl | h
            · exact Or.inr List.mem_cons_self
            · exact Or.inl h
          · exact Or.inr (List.mem_cons_of_mem _ h)
        constructor
        · intro m hm
          rcases List.mem_cons.mp hm with rfl | hm
          · exact Or.inr List.mem_cons_self
          · exact hlisted (hstack m (List.mem_append_right _ hm))
        · intro m hm next hlink
          rcases List.mem_cons.mp hm with rfl | hm
          · obtain ⟨e, he, hsource, rfl, -, hnode⟩ := hlink
            obtain ⟨k, hfind⟩ := exists_findNode? hnode
            have hid := findNode?_id hfind
            by_cases hk : k.id ∈ m.id :: seen
            · exact hlisted (Or.inl (hid ▸ hk))
            · have hmem : k ∈ (g.targets m).filter (·.id ∉ m.id :: seen) :=
                List.mem_filter.mpr ⟨mem_targets.mpr ⟨e, he, hsource, hfind⟩, decide_eq_true hk⟩
              exact hlisted (hid ▸ hstack k (List.mem_append_left _ hmem))
          · exact hlisted (hclosed m hm next hlink)

/-- The ids of the nodes that a plan lists. -/
def planIds (g : Graph) : List String := g.plan.steps.map (·.nodeId)

theorem planIds_eq {s : Node} (h : g.startNode? = some s) :
    g.planIds = (g.walk (g.edges.length + 1) [] [s]).map (·.id) := by
  unfold planIds plan planNodes
  rw [h, List.map_map]
  rfl

/-- **A plan lists the ids that can be reached.** -/
theorem mem_planIds_iff {s : Node} (h : g.startNode? = some s) (id : String) :
    id ∈ g.planIds ↔ g.Reaches s.id id := by
  have hnode := hasNode_of_startNode? h
  rw [planIds_eq h]
  constructor
  · intro hid
    obtain ⟨n, hn, rfl⟩ := List.mem_map.mp hid
    refine (walk_reaches hnode _ _ _ (fun m hm => ?_) n hn).1
    rw [List.mem_singleton.mp hm]
    exact .refl
  · intro hreach
    have hfuel : [s].length + g.pending [] ≤ g.edges.length + 1 := by
      have : g.pending [] ≤ g.edges.length := List.countP_le_length
      rw [List.length_singleton]
      omega
    obtain ⟨hstack, hclosed⟩ := walk_closed _ _ _ hfuel
    refine hreach.mem_of_closed ((hstack s List.mem_cons_self).resolve_left List.not_mem_nil)
      fun x hx next hlink => ?_
    obtain ⟨n, hn, rfl⟩ := List.mem_map.mp hx
    exact (hclosed n hn next hlink).resolve_left List.not_mem_nil

end Graph

/-! ## 3. Runs -/

/-- Every id that a run visits can be reached from the start. -/
theorem reaches_of_visited {σ : Type} {c : Frame σ} {s : Node} (h : c.graph.startNode? = some s)
    {state : RunState} {world w : σ} {r : RunResult} (hrun : runGraph c state world = .ok (r, w)) :
    ∀ id ∈ r.visited, c.graph.Reaches s.id id := by
  obtain ⟨ns, last, s₁, outcome, ended, s', htrail, -, hend, hfrom⟩ :=
    runFrom_trail c c.settings.maxSteps s (.opening c s state world)
  obtain ⟨w', hw⟩ := runGraph_of_start h state world hfrom
  rw [hw] at hrun
  obtain ⟨rfl, -⟩ := Prod.mk.inj (Except.ok.inj hrun)
  intro id hid
  obtain ⟨n, hn, rfl⟩ := List.mem_map.mp hid
  have hmem : n ∈ ns ++ [last] := by
    rcases List.mem_append.mp hn with hn | hn
    · exact List.mem_append_left _ hn
    · rcases hend.executed with rfl | rfl
      · exact absurd hn List.not_mem_nil
      · exact List.mem_append_right _ hn
  exact .of_leads (Graph.hasNode_of_startNode? h) (htrail.reaches n hmem)

/-! ## 4. The account -/

/-- **Plan, report and runs agree** on the ids that can be reached from the start. -/
structure AgreesOnReach (g : Graph) (start : String) : Prop where
  /-- A plan lists no id twice. -/
  distinct : g.planIds.Nodup
  /-- It lists the ids that can be reached along edges between nodes. -/
  listed : ∀ id, id ∈ g.planIds ↔ g.Reaches start id
  /-- A warning is given for each node that should be on the chain of control and is not listed. -/
  warned : g.issuesWith "unreachable_node" = (g.nodes.filter fun n =>
    !n.type.isPure && !n.type.isToolProvider && decide (n.id ∉ g.planIds)).map
      Graph.unreachableIssue
  /-- So such a node has a warning exactly when its id is not listed. -/
  unreachable : ∀ n ∈ g.nodes, n.type.isPure = false → n.type.isToolProvider = false →
    ((∃ i ∈ g.issues, i.code = "unreachable_node" ∧ i.level = .warning ∧ i.nodeId = some n.id) ↔
      n.id ∉ g.planIds)
  /-- The missing end is reported exactly when no end is listed. -/
  noEnd : (∃ i ∈ g.issues, i.code = "missing_reachable_end") ↔
    ∀ n ∈ g.nodes, n.type = .finish → n.id ∉ g.planIds
  /-- Every id that a run visits is listed. -/
  visited : ∀ (σ : Type) (c : Frame σ) (state : RunState) (world w : σ) (r : RunResult),
    c.graph = g → runGraph c state world = .ok (r, w) → ∀ id ∈ r.visited, id ∈ g.planIds

namespace Graph

variable {g : Graph}

/-- **Plan, report and runs agree** in every graph with a start node. -/
theorem agreesOnReach {s : Node} (h : g.startNode? = some s) : AgreesOnReach g s.id := by
  have hnode := hasNode_of_startNode? h
  have hlisted := mem_planIds_iff h
  have hentered (id : String) : id ∈ (g.traversal s).entered ↔ id ∈ g.planIds :=
    (mem_entered_iff hnode id).trans (hlisted id).symm
  have hwarned : g.issuesWith "unreachable_node" = (g.nodes.filter fun n =>
      !n.type.isPure && !n.type.isToolProvider && decide (n.id ∉ g.planIds)).map
        unreachableIssue := by
    rw [issuesWith_unreachable h, missed]
    refine congrArg _ (List.filter_congr fun n _ => ?_)
    simp only [hentered, decide_not]
  refine ⟨?_, hlisted, hwarned, ?_, ?_, ?_⟩
  · rw [planIds_eq h]
    exact (nodup_walk _ _ _).1
  · intro n hn hpure hprovider
    constructor
    · rintro ⟨i, hi, hcode, -, hid⟩
      have hi := mem_issuesWith.mpr ⟨hi, hcode⟩
      rw [hwarned] at hi
      obtain ⟨m, hm, rfl⟩ := List.mem_map.mp hi
      obtain ⟨-, hm⟩ := List.mem_filter.mp hm
      rw [← Option.some.inj hid]
      exact of_decide_eq_true (Bool.and_eq_true_iff.mp hm).2
    · intro hout
      have hmem : unreachableIssue n ∈ g.issuesWith "unreachable_node" := by
        rw [hwarned]
        refine List.mem_map_of_mem (List.mem_filter.mpr ⟨hn, ?_⟩)
        rw [hpure, hprovider, decide_eq_true hout]
        rfl
      exact ⟨unreachableIssue n, (mem_issuesWith.mp hmem).1, rfl, rfl, rfl⟩
  · have hend : g.reachesEnd (g.traversal s) = true ↔
        ∃ n ∈ g.nodes, n.type = .finish ∧ n.id ∈ g.planIds := by
      unfold reachesEnd
      rw [List.any_eq_true]
      refine exists_congr fun n => and_congr_right fun _ => ?_
      rw [Bool.and_eq_true_iff, decide_eq_true_iff, decide_eq_true_iff, hentered]
    have hreported : (∃ i ∈ g.issues, i.code = "missing_reachable_end") ↔
        g.issuesWith "missing_reachable_end" ≠ [] := by
      constructor
      · rintro ⟨i, hi⟩
        exact List.ne_nil_of_mem (mem_issuesWith.mpr hi)
      · intro hne
        obtain ⟨i, hi⟩ := List.exists_mem_of_ne_nil _ hne
        exact ⟨i, mem_issuesWith.mp hi⟩
    rw [hreported, issuesWith_noEnd h]
    constructor
    · intro hne n hn htype hmem
      exact hne (if_pos (hend.mpr ⟨n, hn, htype, hmem⟩))
    · intro hnone
      rw [if_neg fun hreach => ?_]
      · exact List.cons_ne_nil _ _
      · obtain ⟨n, hn, htype, hmem⟩ := hend.mp hreach
        exact hnone n hn htype hmem
  · rintro σ c state world w r rfl hrun id hid
    exact (hlisted id).mpr (reaches_of_visited h hrun id hid)

/-- An id used twice, edges to and from nothing, an edge back, and an end that is not reached. -/
def overgrown : Graph :=
  { nodes := [⟨"a", .start, .initial .start⟩, ⟨"b", .transform, .initial .transform⟩,
      ⟨"b", .transform, .initial .transform⟩, ⟨"c", .finish, .initial .finish⟩]
    edges := [{ id := "1", source := "a", target := "b" },
      { id := "2", source := "b", target := "a" },
      { id := "3", source := "b", target := "absent" },
      { id := "4", source := "absent", target := "c" }] }

theorem overgrown_agreesOnReach : ∃ s, overgrown.startNode? = some s ∧ s.id = "a" ∧
    AgreesOnReach overgrown s.id :=
  ⟨⟨"a", .start, .initial .start⟩, rfl, rfl, agreesOnReach rfl⟩

end Graph

end Workgraph
