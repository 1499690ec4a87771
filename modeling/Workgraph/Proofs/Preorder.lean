import Mathlib.Data.Prod.Lex
import Mathlib.Order.WithBot
import Workgraph.Proofs.Agreement

/-!
# Plans list nodes in preorder

A plan works off a stack on which a node can lie several times, and may have been listed by the time
it is taken. This file says what is listed, and in which order, without a stack.

* `visit` and `follow` go down by recursion: a node is visited, then the edges out of it are
  followed one after the other, and no id is visited twice. Every visit takes edges out of those
  that are pending, which bounds the recursion.
* `WorksOff` is the loop over the stack without fuel. A plan has the fuel that the loop takes
  (`worksOff_walk`).
* `visitAll` visits the nodes of a stack one after the other, as the calls that are pending in the
  recursion do. Nodes that are not pushed because they were seen would not be visited anyway
  (`visitAll_filter`), so the loop lists what `visitAll` does (`WorksOff.eq_visitAll`).
* `plan_preorder` is the main result.
-/

namespace Workgraph.Graph

variable {g : Graph}

/-! ## 1. The order of edges -/

/-- The edges out of a node in the order in which they are followed. -/
def followed (g : Graph) (n : Node) : List Edge := (g.routes n).map (·.edge)

/-- What counts in the order of the edges out of a node: the position of the output that an edge
leaves through, an unknown output being the last; then the ids of the target and of the edge. -/
def followKey (n : Node) (e : Edge) : WithTop ℕ ×ₗ String ×ₗ String :=
  toLex (match (routeOf n e).portIndex with | some i => WithTop.some i | none => ⊤,
    toLex (e.target, e.id))

theorem followKey_le_of_before {n : Node} {e e' : Edge}
    (h : Route.before (routeOf n e) (routeOf n e') = true) : followKey n e ≤ followKey n e' := by
  unfold followKey
  rcases (Route.before_iff _ _).mp h with ⟨hne, hle⟩ | ⟨heq, hkeys⟩
  · refine Prod.Lex.toLex_le_toLex.mpr (.inl ?_)
    generalize (routeOf n e).portIndex = i at hne hle ⊢
    generalize (routeOf n e').portIndex = j at hne hle ⊢
    match i, j with
    | some i, some j =>
      have hij : i ≤ j := of_decide_eq_true hle
      exact WithTop.coe_lt_coe.mpr (lt_of_le_of_ne hij fun h => hne (congrArg some h))
    | some i, none => exact WithTop.coe_lt_top i
    | none, some _ => exact absurd hle Bool.false_ne_true
    | none, none => exact absurd rfl hne
  · rw [heq]
    exact Prod.Lex.toLex_le_toLex.mpr (.inr ⟨rfl, Prod.Lex.toLex_le_toLex.mpr hkeys⟩)

theorem routeOf_edge {n : Node} {r : Route} (h : r ∈ g.routes n) : routeOf n r.edge = r := by
  obtain ⟨e, -, rfl⟩ := List.mem_map.mp (List.mem_mergeSort.mp h)
  rfl

theorem followed_sorted (g : Graph) (n : Node) :
    (g.followed n).Pairwise fun e e' => followKey n e ≤ followKey n e' := by
  have hsorted : (g.routes n).Pairwise fun r r' => Route.before r r' = true :=
    List.pairwise_mergeSort Route.before_trans Route.before_total _
  refine List.pairwise_map.mpr (hsorted.imp_of_mem fun hr hr' h => followKey_le_of_before ?_)
  rw [routeOf_edge hr, routeOf_edge hr']
  exact h

/-! ## 2. Visiting by recursion -/

/-- The ids seen once nodes were visited, the last one first. -/
def seenAfter (seen : List String) (ns : List Node) : List String :=
  ns.foldl (fun seen n => n.id :: seen) seen

theorem seenAfter_append (seen : List String) (ns ms : List Node) :
    seenAfter seen (ns ++ ms) = seenAfter (seenAfter seen ns) ms := List.foldl_append

theorem mem_seenAfter {seen : List String} {id : String} (h : id ∈ seen) (ns : List Node) :
    id ∈ seenAfter seen ns := by
  induction ns generalizing seen with
  | nil => exact h
  | cons n ns ih => exact ih (List.mem_cons_of_mem _ h)

/-- The more ids were seen, the fewer edges are pending. -/
theorem pending_anti {seen seen' : List String} (h : ∀ id ∈ seen, id ∈ seen') :
    g.pending seen' ≤ g.pending seen := by
  refine List.countP_mono_left fun e _ he => ?_
  have he := of_decide_eq_true he
  exact decide_eq_true fun hseen => he (h _ hseen)

theorem length_followed (g : Graph) (n : Node) :
    (g.followed n).length = g.edges.countP fun e => e.source = n.id := by
  unfold followed
  rw [List.length_map, length_routes]

mutual

/-- The nodes visited from a node on, unless it was seen before: the node, then those visited along
the edges out of it. -/
def visit (g : Graph) (seen : List String) (n : Node) : List Node :=
  if n.id ∈ seen then [] else n :: g.follow (n.id :: seen) (g.followed n)
termination_by 2 * g.pending seen + 1
decreasing_by
  next hnew =>
    have hpending := g.pending_cons hnew
    have hlength := g.length_followed n
    omega

/-- The nodes visited along edges, one edge after the other. An edge without a target leads
nowhere. -/
def follow (g : Graph) (seen : List String) : List Edge → List Node
  | [] => []
  | e :: es =>
    match g.findNode? e.target with
    | none => g.follow seen es
    | some n =>
      let visited := g.visit seen n
      visited ++ g.follow (seenAfter seen visited) es
termination_by es => 2 * g.pending seen + 2 * es.length
decreasing_by
  all_goals have hlength : (e :: es).length = es.length + 1 := rfl
  · omega
  · omega
  · have hpending : g.pending (seenAfter seen visited) ≤ g.pending seen :=
      pending_anti fun _ h => mem_seenAfter h visited
    unfold visited at hpending
    omega

end

/-! ## 3. Visiting the nodes of a stack -/

/-- The nodes visited from the nodes of a stack on, one after the other. -/
def visitAll (g : Graph) (seen : List String) : List Node → List Node
  | [] => []
  | n :: ns =>
    let visited := g.visit seen n
    visited ++ g.visitAll (seenAfter seen visited) ns

theorem visitAll_cons (g : Graph) (seen : List String) (n : Node) (ns : List Node) :
    g.visitAll seen (n :: ns) =
      g.visit seen n ++ g.visitAll (seenAfter seen (g.visit seen n)) ns := rfl

theorem visit_of_mem {seen : List String} {n : Node} (h : n.id ∈ seen) : g.visit seen n = [] := by
  rw [visit, if_pos h]

theorem visitAll_of_mem {seen : List String} {n : Node} (h : n.id ∈ seen) (ns : List Node) :
    g.visitAll seen (n :: ns) = g.visitAll seen ns := by
  rw [visitAll_cons, visit_of_mem h]
  rfl

/-- To follow edges is to visit the targets that they have. -/
theorem follow_eq_visitAll (g : Graph) (seen : List String) (es : List Edge) :
    g.follow seen es = g.visitAll seen (es.filterMap fun e => g.findNode? e.target) := by
  induction es generalizing seen with
  | nil =>
    rw [follow]
    rfl
  | cons e es ih =>
    rw [follow, List.filterMap_cons]
    cases g.findNode? e.target with
    | none => exact ih seen
    | some n => exact congrArg (g.visit seen n ++ ·) (ih _)

theorem visit_of_notMem {seen : List String} {n : Node} (h : n.id ∉ seen) :
    g.visit seen n = n :: g.visitAll (n.id :: seen) (g.targets n) := by
  rw [visit, if_neg h, follow_eq_visitAll, followed, List.filterMap_map]
  rfl

/-- The nodes further down on a stack are visited when those on top have been. -/
theorem visitAll_append (g : Graph) (seen : List String) (ns ms : List Node) :
    g.visitAll seen (ns ++ ms) =
      g.visitAll seen ns ++ g.visitAll (seenAfter seen (g.visitAll seen ns)) ms := by
  induction ns generalizing seen with
  | nil => rfl
  | cons n ns ih =>
    rw [List.cons_append, visitAll_cons, visitAll_cons, ih, seenAfter_append, List.append_assoc]

/-- Nodes that are left out because they were seen would not be visited. -/
theorem visitAll_filter (g : Graph) {skip seen : List String} (h : ∀ id ∈ skip, id ∈ seen)
    (ns : List Node) : g.visitAll seen (ns.filter (·.id ∉ skip)) = g.visitAll seen ns := by
  induction ns generalizing seen with
  | nil => rfl
  | cons n ns ih =>
    by_cases hskip : n.id ∈ skip
    · rw [List.filter_cons_of_neg (by simpa using hskip), visitAll_of_mem (h _ hskip), ih h]
    · rw [List.filter_cons_of_pos (by simpa using hskip), visitAll_cons, visitAll_cons,
        ih fun id hid => mem_seenAfter (h id hid) _]

/-! ## 4. The loop -/

/-- The loop works off a stack until it is empty: nodes seen before are dropped, other nodes are
listed and make room for those targets that were not seen. -/
inductive WorksOff (g : Graph) : List String → List Node → List Node → Prop
  | done (seen : List String) : WorksOff g seen [] []
  | drop {seen : List String} {n : Node} {stack listed : List Node} (hseen : n.id ∈ seen)
      (hrest : WorksOff g seen stack listed) : WorksOff g seen (n :: stack) listed
  | list {seen : List String} {n : Node} {stack listed : List Node} (hnew : n.id ∉ seen)
      (hrest : WorksOff g (n.id :: seen)
        ((g.targets n).filter (·.id ∉ n.id :: seen) ++ stack) listed) :
      WorksOff g seen (n :: stack) (n :: listed)

/-- With fuel for the stack and the pending edges, a walk works off the stack. -/
theorem worksOff_walk : ∀ fuel seen stack, stack.length + g.pending seen ≤ fuel →
    g.WorksOff seen stack (g.walk fuel seen stack) := by
  intro fuel
  induction fuel with
  | zero =>
    intro seen stack hfuel
    have hnil : stack = [] := List.eq_nil_of_length_eq_zero (by omega)
    subst hnil
    exact .done seen
  | succ fuel ih =>
    intro seen stack hfuel
    cases stack with
    | nil => exact .done seen
    | cons n stack =>
      rw [List.length_cons] at hfuel
      by_cases hseen : n.id ∈ seen
      · rw [walk_of_mem hseen]
        exact .drop hseen (ih seen stack (by omega))
      · rw [walk_of_notMem hseen]
        refine .list hseen (ih _ _ ?_)
        have hpending := g.pending_cons hseen
        have htargets := g.length_targets_le n
        have hfilter := List.length_filter_le (fun m => m.id ∉ n.id :: seen) (g.targets n)
        rw [List.length_append]
        omega

/-- **The loop lists what the recursion visits.** -/
theorem WorksOff.eq_visitAll {seen : List String} {stack listed : List Node}
    (h : g.WorksOff seen stack listed) : listed = g.visitAll seen stack := by
  induction h with
  | done seen => rfl
  | drop hseen _ ih => rw [visitAll_of_mem hseen, ih]
  | @list seen n stack listed hnew _ ih =>
    rw [ih, visitAll_append, visitAll_filter g fun _ hid => hid, visitAll_cons,
      visit_of_notMem hnew, List.cons_append]
    rfl

/-! ## 5. The plan -/

/-- **A plan is the preorder** of the nodes that are met from a start node on. -/
structure PlannedInPreorder (g : Graph) (start : Node) : Prop where
  /-- The loop comes to an end, -/
  ends : g.WorksOff [] [start] g.planNodes
  /-- and the steps are those of the nodes that the recursion visits, in its order, -/
  steps : g.plan.steps = (g.visit [] start).map Node.planStep
  /-- which follows all edges out of a node, -/
  all (n : Node) : (g.followed n).Perm (g.outgoing n.id)
  /-- sorted by the position of the output, with unknown outputs last, by the id of the target and
  by the id of the edge. -/
  sorted (n : Node) : (g.followed n).Pairwise fun e e' => followKey n e ≤ followKey n e'

/-- **Plans list nodes in preorder**, in every graph with a start node. -/
theorem plan_preorder {s : Node} (h : g.startNode? = some s) : PlannedInPreorder g s := by
  have hnodes : g.planNodes = g.walk (g.edges.length + 1) [] [s] := by
    unfold planNodes
    rw [h]
  have hfuel : [s].length + g.pending [] ≤ g.edges.length + 1 := by
    have : g.pending [] ≤ g.edges.length := List.countP_le_length
    rw [List.length_singleton]
    omega
  have hends : g.WorksOff [] [s] g.planNodes := hnodes ▸ worksOff_walk _ _ _ hfuel
  refine ⟨hends, ?_, g.routes_perm, g.followed_sorted⟩
  have hvisited : g.planNodes = g.visit [] s := by
    rw [hends.eq_visitAll, visitAll_cons]
    exact List.append_nil _
  unfold plan
  rw [hvisited]

/-- A branch that leads to the end directly and through a node from which there is a way back. -/
def roundabout : Graph :=
  { nodes := [⟨"a", .start, .initial .start⟩, ⟨"b", .ifElse, .initial .ifElse⟩,
      ⟨"c", .transform, .initial .transform⟩, ⟨"d", .finish, .initial .finish⟩]
    edges := [{ id := "1", source := "a", target := "b" },
      { id := "2", source := "b", target := "a", sourcePort := some "closed" },
      { id := "3", source := "b", target := "d", sourcePort := some "else" },
      { id := "4", source := "b", target := "c", sourcePort := some "then" },
      { id := "5", source := "c", target := "b" },
      { id := "6", source := "c", target := "d" }] }

theorem roundabout_plannedInPreorder : ∃ s, roundabout.startNode? = some s ∧ s.id = "a" ∧
    PlannedInPreorder roundabout s :=
  ⟨⟨"a", .start, .initial .start⟩, rfl, rfl, plan_preorder rfl⟩

end Workgraph.Graph
