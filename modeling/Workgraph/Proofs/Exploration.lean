import Mathlib.Logic.Relation
import Workgraph.Graph.Traversal
import Workgraph.Proofs.Lookup

/-!
# What a traversal finds

A traversal enters every id once and marks the edges that lead back to an open node. This file says
what that means for the graph.

* `Graph.Leads` relates an id to the next one along an edge that is followed, apart from some edges.
* `cross` is what a traversal does at one edge: the edge closes a cycle, leads to a node that is
  done, or leads to a new node, which is entered (`cross_cases`).
* `explore_acc` is the invariant: a node that is done starts no endless way over edges that were not
  marked. `traversal_acc` says so of every id entered in the end, so cutting the marked edges cuts
  all cycles.
-/

namespace Workgraph.Graph

variable {g : Graph} {F : List Edge}

/-! ## 1. Edges that are followed -/

/-- An edge that is not among `F` leads from one id to another one, which some node has. -/
def Leads (g : Graph) (F : List Edge) (a b : String) : Prop :=
  ∃ e ∈ g.edges, e ∉ F ∧ e.source = a ∧ e.target = b ∧ g.hasNode b = true

/-- From an id no endless way begins. -/
def Ends (g : Graph) (F : List Edge) (a : String) : Prop := Acc (fun b a => g.Leads F a b) a

/-- The routes of a node are the edges out of it, in an order of their own. -/
theorem routes_perm (g : Graph) (n : Node) :
    ((g.routes n).map (·.edge)).Perm (g.outgoing n.id) := by
  have hperm := (List.mergeSort_perm ((g.outgoing n.id).map (routeOf n)) Route.before).map (·.edge)
  rw [List.map_map] at hperm
  exact hperm.trans (.of_eq (List.map_id _))

theorem mem_successors {n : Node} {e : Edge} :
    e ∈ g.successors n ↔ e ∈ g.edges ∧ e.source = n.id ∧ g.hasNode e.target = true := by
  unfold successors
  rw [List.mem_filter, (g.routes_perm n).mem_iff]
  unfold outgoing
  rw [List.mem_filter, decide_eq_true_iff, and_assoc]

/-- Nothing that is met again along a way can be on a way that ends. -/
theorem Ends.not_transGen {a : String} (h : g.Ends F a) :
    ¬ Relation.TransGen (g.Leads F) a a := by
  intro hcycle
  have hback : Relation.TransGen (fun b a => g.Leads F a b) a a :=
    Relation.transGen_swap.mpr hcycle
  have hacc : Acc (Relation.TransGen fun b a => g.Leads F a b) a := Acc.transGen h
  induction hacc with
  | intro x _ ih => exact ih x hback (h.inv_of_transGen hback) hcycle hback

/-! ## 2. One edge -/

/-- What a traversal does at one edge. -/
def cross (g : Graph) (fuel : Nat) (trail : List String) (t : Traversal) (e : Edge) : Traversal :=
  if e.target ∈ trail then { t with closing := e :: t.closing }
  else if e.target ∈ t.entered then t
  else match g.findLastNode? e.target with
    | some m => g.explore fuel (m.id :: trail) m { t with entered := m.id :: t.entered }
    | none => t

theorem explore_succ (fuel : Nat) (trail : List String) (n : Node) (t : Traversal) :
    g.explore (fuel + 1) trail n t = (g.successors n).foldl (g.cross fuel trail) t := rfl

/-- An edge closes a cycle, leads to a node that is done, or leads to a new node. -/
theorem cross_cases (fuel : Nat) (trail : List String) (t : Traversal) {e : Edge}
    (h : g.hasNode e.target = true) :
    (e.target ∈ trail ∧ g.cross fuel trail t e = { t with closing := e :: t.closing }) ∨
    (e.target ∉ trail ∧ e.target ∈ t.entered ∧ g.cross fuel trail t e = t) ∨
    (e.target ∉ trail ∧ e.target ∉ t.entered ∧ ∃ m, m ∈ g.nodes ∧ m.id = e.target ∧
      g.cross fuel trail t e =
        g.explore fuel (m.id :: trail) m { t with entered := m.id :: t.entered }) := by
  unfold cross
  by_cases htrail : e.target ∈ trail
  · exact Or.inl ⟨htrail, if_pos htrail⟩
  · rw [if_neg htrail]
    by_cases hentered : e.target ∈ t.entered
    · exact Or.inr (Or.inl ⟨htrail, hentered, if_pos hentered⟩)
    · rw [if_neg hentered]
      obtain ⟨m, hm⟩ := exists_findLastNode? h
      refine Or.inr (Or.inr ⟨htrail, hentered, m, mem_of_findLastNode? hm, findLastNode?_id hm, ?_⟩)
      rw [hm]

/-! ## 3. What is found stays found -/

/-- One traversal has found all that another one has found. -/
structure Extends (t t' : Traversal) : Prop where
  entered : ∀ id ∈ t.entered, id ∈ t'.entered
  closing : ∀ e ∈ t.closing, e ∈ t'.closing

theorem Extends.refl (t : Traversal) : Extends t t := ⟨fun _ h => h, fun _ h => h⟩

theorem Extends.trans {t t' t'' : Traversal} (h : Extends t t') (h' : Extends t' t'') :
    Extends t t'' where
  entered id hid := h'.entered id (h.entered id hid)
  closing e he := h'.closing e (h.closing e he)

theorem foldl_extends {step : Traversal → Edge → Traversal} (h : ∀ t e, Extends t (step t e)) :
    ∀ (es : List Edge) (t : Traversal), Extends t (es.foldl step t) := by
  intro es
  induction es with
  | nil => exact .refl
  | cons e es ih => exact fun t => (h t e).trans (ih (step t e))

theorem cross_extends_of {fuel : Nat} (h : ∀ trail n t, Extends t (g.explore fuel trail n t))
    (trail : List String) (t : Traversal) (e : Edge) : Extends t (g.cross fuel trail t e) := by
  unfold cross
  split
  · exact ⟨fun _ h => h, fun _ h => List.mem_cons_of_mem _ h⟩
  · split
    · exact .refl t
    · split
      · next m _ =>
        have henter : Extends t { t with entered := m.id :: t.entered } :=
          ⟨fun _ h => List.mem_cons_of_mem _ h, fun _ h => h⟩
        exact henter.trans (h _ m _)
      · exact .refl t

theorem explore_extends (g : Graph) : ∀ (fuel : Nat) (trail : List String) (n : Node)
    (t : Traversal), Extends t (g.explore fuel trail n t) := by
  intro fuel
  induction fuel with
  | zero => exact fun _ _ t => .refl t
  | succ fuel ih => exact fun trail n t => foldl_extends (cross_extends_of ih trail) _ t

theorem cross_extends (g : Graph) (fuel : Nat) (trail : List String) (t : Traversal) (e : Edge) :
    Extends t (g.cross fuel trail t e) :=
  cross_extends_of (g.explore_extends fuel) trail t e

/-! ## 4. Nodes that are done start no endless way -/

/-- Of the ids entered, those that are not open any more start no endless way. -/
def Done (g : Graph) (F : List Edge) (trail : List String) (t : Traversal) : Prop :=
  ∀ id ∈ t.entered, id ∉ trail → g.Ends F id

/-- What `explore_acc` says of one node with so much fuel. -/
def Explores (g : Graph) (F : List Edge) (fuel : Nat) : Prop :=
  ∀ (trail : List String) (n : Node) (t : Traversal), n.id ∈ trail →
    (∀ id ∈ trail, id ∈ t.entered) → g.unmet t.entered < fuel → g.Done F trail t →
    (∀ e ∈ (g.explore fuel trail n t).closing, e ∈ F) →
    ∀ id ∈ (g.explore fuel trail n t).entered, id = n.id ∨ id ∉ trail → g.Ends F id

/-- Crossing some edges out of an open node: what is done stays done, and every edge is among `F` or
leads to a node that is done. -/
theorem foldl_cross_done {fuel : Nat} (ih : g.Explores F fuel) {trail : List String} :
    ∀ (es : List Edge) (t : Traversal), (∀ e ∈ es, g.hasNode e.target = true) →
    (∀ id ∈ trail, id ∈ t.entered) → g.unmet t.entered < fuel + 1 → g.Done F trail t →
    (∀ e ∈ (es.foldl (g.cross fuel trail) t).closing, e ∈ F) →
    g.Done F trail (es.foldl (g.cross fuel trail) t) ∧ ∀ e ∈ es, e ∈ F ∨ g.Ends F e.target := by
  intro es
  induction es with
  | nil => exact fun t _ _ _ hdone _ => ⟨hdone, fun e he => absurd he List.not_mem_nil⟩
  | cons e es ihes =>
    intro t hnodes htrail hfuel hdone hclosing
    rw [List.foldl_cons] at hclosing ⊢
    have hgrow := g.cross_extends fuel trail t e
    have hrest := foldl_extends (g.cross_extends fuel trail) es (g.cross fuel trail t e)
    -- what holds after the first edge carries on to the others
    have hnext (hdone' : g.Done F trail (g.cross fuel trail t e)) (he : e ∈ F ∨ g.Ends F e.target) :
        g.Done F trail (es.foldl (g.cross fuel trail) (g.cross fuel trail t e)) ∧
          ∀ e' ∈ e :: es, e' ∈ F ∨ g.Ends F e'.target := by
      obtain ⟨hall, hes⟩ := ihes (g.cross fuel trail t e)
        (fun e' he' => hnodes e' (List.mem_cons_of_mem _ he'))
        (fun id hid => hgrow.entered id (htrail id hid))
        (Nat.lt_of_le_of_lt (g.unmet_anti hgrow.entered) hfuel) hdone' hclosing
      refine ⟨hall, fun e' he' => ?_⟩
      rcases List.mem_cons.mp he' with rfl | he'
      · exact he
      · exact hes e' he'
    rcases cross_cases fuel trail t (hnodes e List.mem_cons_self) with
      ⟨hopen, heq⟩ | ⟨hopen, hold, heq⟩ | ⟨hopen, hfresh, m, hm, hid, heq⟩
    · have he : e ∈ (g.cross fuel trail t e).closing := by
        rw [heq]
        exact List.mem_cons_self
      refine hnext ?_ (Or.inl (hclosing e (hrest.closing e he)))
      rw [heq]
      exact hdone
    · refine hnext ?_ (Or.inr (hdone _ hold hopen))
      rw [heq]
      exact hdone
    · have hless := unmet_lt hm (by rwa [hid])
      have hnew := ih (m.id :: trail) m { t with entered := m.id :: t.entered } List.mem_cons_self
        (fun id h => by
          rcases List.mem_cons.mp h with rfl | h
          · exact List.mem_cons_self
          · exact List.mem_cons_of_mem _ (htrail id h))
        (by show g.unmet (m.id :: t.entered) < fuel; omega)
        (fun id h hout => by
          rw [List.mem_cons, not_or] at hout
          exact hdone id ((List.mem_cons.mp h).resolve_left hout.1) hout.2)
        (by rw [← heq]; exact fun e' he' => hclosing e' (hrest.closing e' he'))
      rw [← heq] at hnew
      refine hnext (fun id h hout => hnew id h ?_) (Or.inr ?_)
      · by_cases hself : id = m.id
        · exact Or.inl hself
        · exact Or.inr fun h => hout ((List.mem_cons.mp h).resolve_left hself)
      · rw [← hid]
        refine hnew m.id ?_ (Or.inl rfl)
        rw [heq]
        exact (g.explore_extends _ _ m _).entered _ List.mem_cons_self

/-- **The invariant of a traversal**: when it leaves a node, this node and all others that are done
start no endless way over edges that do not close a cycle. -/
theorem explore_acc (g : Graph) (F : List Edge) : ∀ fuel, g.Explores F fuel := by
  intro fuel
  induction fuel with
  | zero =>
    intro trail n t _ _ hfuel
    omega
  | succ fuel ih =>
    intro trail n t hn htrail hfuel hdone hclosing id hid hwhich
    rw [explore_succ] at hclosing hid
    obtain ⟨hall, hedges⟩ := foldl_cross_done ih (g.successors n) t
      (fun e he => (mem_successors.mp he).2.2) htrail hfuel hdone hclosing
    rcases hwhich with rfl | hout
    · refine Acc.intro _ fun b hlead => ?_
      obtain ⟨e, he, hF, hsource, rfl, hnode⟩ := hlead
      exact (hedges e (mem_successors.mpr ⟨he, hsource, hnode⟩)).resolve_left hF
    · exact hall id hid hout

/-- **The edges that a traversal marks cut all cycles** that can be reached from the start. -/
theorem traversal_acc (start : Node) (hF : ∀ e ∈ (g.traversal start).closing, e ∈ F) :
    ∀ id ∈ (g.traversal start).entered, g.Ends F id := by
  intro id hid
  refine g.explore_acc F (g.nodes.length + 1) [start.id] start { entered := [start.id] }
    List.mem_cons_self (fun _ h => h) (Nat.lt_succ_of_le (g.unmet_le _)) ?_ hF id hid ?_
  · exact fun id h hout => absurd h hout
  · by_cases h : id = start.id
    · exact Or.inl h
    · exact Or.inr fun hmem => h (List.mem_singleton.mp hmem)

theorem start_mem_entered (g : Graph) (start : Node) :
    start.id ∈ (g.traversal start).entered :=
  (g.explore_extends _ _ start _).entered _ List.mem_cons_self

end Workgraph.Graph
