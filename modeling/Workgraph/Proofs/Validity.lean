import Mathlib.Data.List.Nodup
import Workgraph.Graph.Validity
import Workgraph.Proofs.Departure
import Workgraph.Proofs.Lookup
import Workgraph.Tools.Offer

/-!
# Graphs without errors

What the checks say when they find no error. Each check is read on its own.

* `Graph.Sound` lists the facts: there is a start node, no id is used twice, bodies have the types
  of their nodes, no consumer has two providers of a type of which one may serve, and the traversal
  from the start closes no cycle. `sound_of_noErrors` says that they hold when no issue is an error.
* `collect_ok` turns the static count of providers into the dynamic one: whatever the gates let
  through, collecting the tools of a consumer gives a set.
* `CanTake.notProvider` says that the chain of control never leads into a provider, since providers
  have no input on it.
-/

namespace Workgraph

/-! ## 1. The checks -/

/-- No issue in a list is an error. -/
def Issue.NoErrors (is : List Issue) : Prop := ∀ i ∈ is, i.level ≠ .error

theorem Issue.noErrors_iff (is : List Issue) : Issue.hasErrors is = false ↔ Issue.NoErrors is := by
  unfold hasErrors NoErrors
  rw [List.any_eq_false]
  refine forall₂_congr fun i _ => not_congr ?_
  unfold isError
  exact decide_eq_true_iff

namespace Issue.NoErrors

variable {is is' : List Issue}

theorem left (h : NoErrors (is ++ is')) : NoErrors is :=
  fun i hi => h i (List.mem_append_left _ hi)

theorem right (h : NoErrors (is ++ is')) : NoErrors is' :=
  fun i hi => h i (List.mem_append_right _ hi)

/-- A list of errors without errors is empty. -/
theorem eq_nil (h : NoErrors is) (herror : ∀ i ∈ is, i.level = .error) : is = [] :=
  List.eq_nil_iff_forall_not_mem.mpr fun i hi => h i hi (herror i hi)

end Issue.NoErrors

open Issue (NoErrors)

namespace Graph

variable {g : Graph}

theorem exists_startNode? (h : NoErrors g.instanceIssues) : ∃ start, g.startNode? = some start := by
  cases hstart : g.startNode? with
  | some start => exact ⟨start, rfl⟩
  | none =>
    have hnone : g.nodesOfType .start = [] := by
      rw [nodesOfType, List.filter_eq_nil_iff]
      exact List.find?_eq_none.mp hstart
    have hbounded : definitionOf .start ∈ Definition.bounded :=
      List.mem_filter.mpr ⟨List.mem_map_of_mem (NodeType.mem_all .start), rfl⟩
    have hissues : NoErrors (g.instanceIssuesOf (definitionOf .start) Definition.startBounds) :=
      fun i hi => h i (List.mem_flatMap.mpr ⟨_, hbounded, hi⟩)
    have hmissing :
        (g.nodesOfType (definitionOf .start).type).length < Definition.startBounds.min := by
      show (g.nodesOfType .start).length < 1
      rw [hnone]
      exact Nat.zero_lt_one
    unfold instanceIssuesOf at hissues
    dsimp only at hissues
    rw [if_pos hmissing] at hissues
    exact absurd rfl (hissues.left _ List.mem_cons_self)

theorem nodes_of_noErrors : ∀ (ns : List Node) (earlier : List String),
    NoErrors (nodeIssuesAfter earlier ns) →
    (ns.map (·.id)).Nodup ∧ ∀ n ∈ ns, n.id ∉ earlier ∧ n.data.body.nodeType = n.type := by
  intro ns
  induction ns with
  | nil => exact fun _ _ => ⟨List.nodup_nil, fun n hn => absurd hn List.not_mem_nil⟩
  | cons n ns ih =>
    intro earlier h
    obtain ⟨hnodup, hrest⟩ := ih _ h.right
    have hid : n.id ∉ earlier := by
      intro hin
      have := h.left.left
      rw [if_pos hin] at this
      exact this _ List.mem_cons_self rfl
    have htype : n.data.body.nodeType = n.type := by
      by_contra hne
      have := h.left.right
      rw [if_pos hne] at this
      exact this _ List.mem_cons_self rfl
    refine ⟨?_, fun m hm => ?_⟩
    · rw [List.map_cons, List.nodup_cons]
      refine ⟨fun hin => ?_, hnodup⟩
      obtain ⟨m, hm, heq⟩ := List.mem_map.mp hin
      exact (hrest m hm).1 (heq ▸ List.mem_cons_self)
    · rcases List.mem_cons.mp hm with rfl | hm
      · exact ⟨hid, htype⟩
      · exact ⟨fun hin => (hrest m hm).1 (List.mem_cons_of_mem _ hin), (hrest m hm).2⟩

/-- Without a second occurrence no type occurs twice. -/
theorem nodup_of_secondOccurrences : ∀ (ts earlier : List NodeType), earlier.Nodup →
    secondOccurrences earlier ts = [] → (ts.reverse ++ earlier).Nodup := by
  intro ts
  induction ts with
  | nil => exact fun _ h _ => h
  | cons t ts ih =>
    intro earlier hnodup h
    unfold secondOccurrences at h
    split at h
    · cases h
    · next hcount =>
      have hle := List.nodup_iff_count_le_one.mp hnodup t
      have hnew : t ∉ earlier := by
        rw [← List.count_eq_zero]
        omega
      have hrest := ih (t :: earlier) (List.nodup_cons.mpr ⟨hnew, hnodup⟩) h
      rwa [List.reverse_cons, List.append_assoc, List.singleton_append]

theorem singles_of_noErrors (h : NoErrors g.providerIssues) {n : Node} (hn : n ∈ g.nodes)
    (ht : n.type = .completion) : (g.singleProviders n.id).Nodup := by
  have hmem : n ∈ g.nodesOfType .completion := List.mem_filter.mpr ⟨hn, decide_eq_true ht⟩
  have hnone : secondOccurrences [] (g.singleProviders n.id) = [] := by
    rw [← List.map_eq_nil_iff]
    refine Issue.NoErrors.eq_nil (fun i hi => h i (List.mem_flatMap.mpr ⟨n, hmem, hi⟩)) ?_
    intro i hi
    obtain ⟨t, -, rfl⟩ := List.mem_map.mp hi
    rfl
  have := nodup_of_secondOccurrences _ [] List.nodup_nil hnone
  rwa [List.append_nil, List.nodup_reverse] at this

theorem closing_of_noErrors {start : Node} (h : NoErrors (g.traversalIssues start)) :
    (g.traversal start).closing = [] := by
  have hcycles := h.left.right
  have hnone : (g.traversal start).closing.reverse.map cycleIssue = [] := by
    refine hcycles.eq_nil fun i hi => ?_
    obtain ⟨e, -, rfl⟩ := List.mem_map.mp hi
    rfl
  rwa [List.map_eq_nil_iff, List.reverse_eq_nil_iff] at hnone

/-- **What holds of a graph without errors**, as far as its runs are concerned. -/
structure Sound (g : Graph) : Prop where
  start : ∃ start, g.startNode? = some start
  ids : (g.nodes.map (·.id)).Nodup
  typed : ∀ n ∈ g.nodes, n.data.body.nodeType = n.type
  singles : ∀ n ∈ g.nodes, n.type = .completion → (g.singleProviders n.id).Nodup
  acyclic : ∀ start, g.startNode? = some start → (g.traversal start).closing = []

theorem sound_of_noErrors (h : Issue.hasErrors g.issues = false) : g.Sound := by
  have h := (Issue.noErrors_iff _).mp h
  unfold issues at h
  obtain ⟨hids, hnodes⟩ := nodes_of_noErrors g.nodes [] h.left.left.left.right
  constructor
  · exact exists_startNode? h.left.left.left.left
  · exact hids
  · exact fun n hn => (hnodes n hn).2
  · exact fun n hn ht => singles_of_noErrors h.left.right hn ht
  · intro start hstart
    have htraversal := h.right
    rw [hstart] at htraversal
    exact closing_of_noErrors htraversal

/-! ## 2. Nodes on the chain of control -/

theorem kind_of_provider {t : NodeType} (h : t.isToolProvider = true) {p : Port}
    (hp : p ∈ (definitionOf t).inputs) : p.kind ≠ .flow := by
  have hinputs : (definitionOf t).inputs = Definition.providerInputs := by
    cases t <;> first | rfl | cases h
  rw [hinputs] at hp
  rw [List.mem_singleton.mp hp]
  exact nofun

/-- The chain of control leads into no provider. -/
theorem CanTake.notProvider {n m : Node} {port : String} {e : Edge} (h : g.CanTake n port e m) :
    m.type.isToolProvider = false := by
  obtain ⟨i, p, hp, hflow⟩ := h.flow
  cases hm : m.type.isToolProvider with
  | false => rfl
  | true =>
    have hmem : p ∈ m.inputPorts := by
      obtain ⟨k, hk, hget⟩ := Option.bind_eq_some_iff.mp (findPort_withId hp)
      obtain ⟨q, hq, heq⟩ := Option.map_eq_some_iff.mp hget
      obtain ⟨-, rfl⟩ := Prod.mk.inj heq
      exact List.mem_of_getElem? hq
    exact absurd hflow (kind_of_provider hm hmem)

end Graph

/-! ## 3. Collecting tools -/

namespace Tools

variable {e : ScriptEngine} {g : Graph} {s : RunState} {settings : ContextSettings}
  {consumer : String}

/-- The types of which one may serve, among the providers at the other ends of some edges. -/
def singlesOf (g : Graph) (edges : List Edge) : List NodeType :=
  edges.filterMap fun e => match g.findNode? e.source with
    | some p =>
      if p.data.muted || !(definitionOf p.type).singlePerConsumer then none else some p.type
    | none => none

theorem singlesOf_cons_of_single {edge : Edge} {edges : List Edge} {n : Node}
    (h : providerOf? g edge = some n) (hsingle : (definitionOf n.type).singlePerConsumer = true) :
    singlesOf g (edge :: edges) = n.type :: singlesOf g edges := by
  obtain ⟨hfind, hprovider⟩ := Option.filter_eq_some_iff.mp h
  have hmuted : n.data.muted = false := by
    rw [Bool.and_eq_true, Bool.not_eq_true'] at hprovider
    exact hprovider.2
  unfold singlesOf
  refine List.filterMap_cons_some ?_
  rw [hfind]
  simp only [hmuted, hsingle, Bool.not_true, Bool.or_self, Bool.false_eq_true, if_false]

/-- Fewer edges, fewer types. -/
theorem nodup_singlesOf_tail {types : List NodeType} {edge : Edge} {edges : List Edge}
    (h : (types ++ singlesOf g (edge :: edges)).Nodup) : (types ++ singlesOf g edges).Nodup := by
  refine h.sublist (List.Sublist.append_left ?_ types)
  exact (List.sublist_cons_self edge edges).filterMap _

/-- A provider is admitted when its type is new or may serve several times. -/
theorem admit_ok (c : Collected) (consumer : String) (n : Node) (settings : ContextSettings)
    (h : (definitionOf n.type).singlePerConsumer = true → n.type ∉ c.singles.map (·.1)) :
    ∃ c', c.admit consumer n settings = .ok c' ∧ c'.singles.map (·.1) =
      if (definitionOf n.type).singlePerConsumer then n.type :: c.singles.map (·.1)
      else c.singles.map (·.1) := by
  unfold Collected.admit
  cases hsingle : (definitionOf n.type).singlePerConsumer with
  | false => exact ⟨_, rfl, rfl⟩
  | true =>
    have hnone : (c.singles.find? fun e => e.1 = n.type) = none := by
      rw [List.find?_eq_none]
      intro entry hentry heq
      exact h hsingle (List.mem_map.mpr ⟨entry, hentry, of_decide_eq_true heq⟩)
    rw [hnone]
    exact ⟨_, rfl, rfl⟩

/-- What happens at the edge of a provider: it is added if it is open. -/
theorem collectFrom_cons {edge : Edge} {n : Node} (h : providerOf? g edge = some n)
    (edges : List Edge) (c : Collected) (r : Resolver) :
    collectFrom e g s settings consumer (edge :: edges) c r =
      if (isOpen e g s n r).1 then
        match c.admit consumer n settings with
        | .ok c' => collectFrom e g s settings consumer edges c' (isOpen e g s n r).2
        | .error f => (.error f, (isOpen e g s n r).2)
      else collectFrom e g s settings consumer edges c (isOpen e g s n r).2 := by
  have hstep : collectFrom e g s settings consumer (edge :: edges) c r =
      (if (isOpen e g s n r).1 then
        match c.admit consumer n settings with
        | .ok c' => collectFrom e g s settings consumer edges c'
        | .error f => return .error f
      else collectFrom e g s settings consumer edges c) (isOpen e g s n r).2 := by
    simp only [collectFrom, h]
    rfl
  rw [hstep]
  split
  · split <;> rfl
  · rfl

/-- Collecting along some edges gives a set when the types admitted so far and the types to come
hold no type twice. -/
theorem collectFrom_ok : ∀ (edges : List Edge) (c : Collected) (r : Resolver),
    (c.singles.map (·.1) ++ singlesOf g edges).Nodup →
    ∃ tools, (collectFrom e g s settings consumer edges c r).1 = .ok tools := by
  intro edges
  induction edges with
  | nil => exact fun c _ _ => ⟨c.set, rfl⟩
  | cons edge edges ih =>
    intro c r h
    have htail := nodup_singlesOf_tail h
    cases hn : providerOf? g edge with
    | none =>
      simp only [collectFrom, hn]
      exact ih c r htail
    | some n =>
      rw [collectFrom_cons hn]
      split
      · obtain ⟨c', hc', htypes⟩ := admit_ok c consumer n settings fun hsingle hin => by
          rw [singlesOf_cons_of_single hn hsingle] at h
          exact List.disjoint_of_nodup_append h hin List.mem_cons_self
        rw [hc']
        refine ih c' _ ?_
        rw [htypes]
        cases hsingle : (definitionOf n.type).singlePerConsumer with
        | false => exact htail
        | true =>
          rw [singlesOf_cons_of_single hn hsingle] at h
          exact List.nodup_middle.mp h
      · exact ih c _ htail

theorem collect_ok {n : Node} (h : (g.singleProviders n.id).Nodup) (r : Resolver) :
    ∃ tools, (collect e g s settings n.id r).1 = .ok tools :=
  collectFrom_ok _ {} r h

end Tools

end Workgraph
