import Mathlib.Data.List.Chain
import Workgraph.Proofs.Exploration

/-!
# A traversal step by step

A traversal goes through edge after edge, and at some of them through all that lies behind. This
file lays a traversal out as a derivation, so that what it finds is proved along the edges, without
the fuel that bounds its depth.

* `Graph.Reaches` says that a way along edges between nodes leads from one id to another.
* `Ready` says what holds whenever some edges are about to be crossed: they leave the node opened
  last, and the open nodes lie on a way on which no id is met twice.
* `Descends` has a rule for each thing that can happen at an edge. `traversal_descends` says that a
  traversal is such a derivation.
* `mem_entered_iff` is the first thing that follows: a traversal enters the ids that can be reached.
-/

namespace Workgraph.Graph

variable {g : Graph}

/-! ## 1. Reachable ids -/

/-- An edge leads from one id to another, and nodes have both of them. -/
def Links (g : Graph) (a b : String) : Prop :=
  ∃ e ∈ g.edges, e.source = a ∧ e.target = b ∧ g.hasNode a = true ∧ g.hasNode b = true

/-- A way along edges between nodes leads from one id to another. -/
def Reaches (g : Graph) (a b : String) : Prop := Relation.ReflTransGen g.Links a b

theorem Links.of_edge {e : Edge} (he : e ∈ g.edges) (hsource : g.hasNode e.source = true)
    (htarget : g.hasNode e.target = true) : g.Links e.source e.target :=
  ⟨e, he, rfl, rfl, hsource, htarget⟩

theorem Reaches.hasNode {a b : String} (h : g.Reaches a b) (ha : g.hasNode a = true) :
    g.hasNode b = true := by
  induction h with
  | refl => exact ha
  | tail _ hlast _ =>
    obtain ⟨e, -, -, -, -, hb⟩ := hlast
    exact hb

/-- A set of ids that holds an id and all to which its members are linked holds all that this id
reaches. -/
theorem Reaches.mem_of_closed {a b : String} {ids : List String} (h : g.Reaches a b) (ha : a ∈ ids)
    (hclosed : ∀ id ∈ ids, ∀ next, g.Links id next → next ∈ ids) : b ∈ ids := by
  induction h with
  | refl => exact ha
  | tail _ hlast ih => exact hclosed _ ih _ hlast

/-- The ways of a run lead along edges between nodes. -/
theorem Reaches.of_leads {a b : String} (ha : g.hasNode a = true)
    (h : Relation.ReflTransGen (g.Leads []) a b) : g.Reaches a b := by
  induction h with
  | refl => exact .refl
  | tail _ hlast ih =>
    obtain ⟨e, he, -, rfl, rfl, hnode⟩ := hlast
    exact ih.tail (.of_edge he (ih.hasNode ha) hnode)

/-! ## 2. The derivation -/

/-- What holds when a traversal is about to cross some edges. -/
structure Ready (g : Graph) (trail : List String) (es : List Edge) (t : Traversal) : Prop where
  /-- The edges lead from the node that was opened last to nodes. -/
  edges : ∀ e ∈ es, e ∈ g.edges ∧ trail.head? = some e.source ∧ g.hasNode e.target = true
  /-- The open nodes have been entered. -/
  entered : ∀ id ∈ trail, id ∈ t.entered
  nodes : ∀ id ∈ trail, g.hasNode id = true
  /-- The open nodes lie on a way, the latest first. -/
  way : trail.IsChain fun b a => g.Links a b
  nodup : trail.Nodup

namespace Ready

variable {trail : List String} {es : List Edge} {e : Edge} {t t' : Traversal}

/-- The other edges can be crossed when no id has been lost. -/
theorem tail (h : g.Ready trail (e :: es) t) (hgrow : ∀ id ∈ t.entered, id ∈ t'.entered) :
    g.Ready trail es t' where
  edges e' he' := h.edges e' (List.mem_cons_of_mem _ he')
  entered id hid := hgrow id (h.entered id hid)
  nodes := h.nodes
  way := h.way
  nodup := h.nodup

/-- The edge at hand links the node that was opened last to its target. -/
theorem links (h : g.Ready trail (e :: es) t) : g.Links e.source e.target := by
  obtain ⟨he, hhead, htarget⟩ := h.edges e List.mem_cons_self
  exact .of_edge he (h.nodes _ (List.mem_of_mem_head? hhead)) htarget

theorem source_mem (h : g.Ready trail (e :: es) t) : e.source ∈ t.entered :=
  h.entered _ (List.mem_of_mem_head? (h.edges e List.mem_cons_self).2.1)

/-- When the open nodes can be reached, so can the target of the edge at hand. -/
theorem reaches_enter {start : String} (h : g.Ready trail (e :: es) t)
    (htrail : ∀ id ∈ trail, g.Reaches start id) : ∀ id ∈ e.target :: trail, g.Reaches start id := by
  have hsource := htrail _ (List.mem_of_mem_head? (h.edges e List.mem_cons_self).2.1)
  intro id hid
  rcases List.mem_cons.mp hid with rfl | hid
  · exact hsource.tail h.links
  · exact htrail id hid

/-- The edges behind a new node can be crossed once it is entered. -/
theorem enter (h : g.Ready trail (e :: es) t) (hfresh : e.target ∉ t.entered) {m : Node}
    (hid : m.id = e.target) :
    g.Ready (e.target :: trail) (g.successors m)
      { t with entered := e.target :: t.entered } where
  edges e' he' := by
    obtain ⟨hmem, hsource, hnode⟩ := mem_successors.mp he'
    exact ⟨hmem, congrArg some (hid.symm.trans hsource.symm), hnode⟩
  entered id hmem := by
    rcases List.mem_cons.mp hmem with rfl | hmem
    · exact List.mem_cons_self
    · exact List.mem_cons_of_mem _ (h.entered id hmem)
  nodes id hmem := by
    rcases List.mem_cons.mp hmem with rfl | hmem
    · exact (h.edges e List.mem_cons_self).2.2
    · exact h.nodes id hmem
  way := by
    refine List.isChain_cons.mpr ⟨fun b hb => ?_, h.way⟩
    have hhead := (h.edges e List.mem_cons_self).2.1
    rw [hhead] at hb
    cases hb
    exact h.links
  nodup := List.nodup_cons.mpr ⟨fun hmem => hfresh (h.entered _ hmem), h.nodup⟩

end Ready

/-- **What a traversal does** with some nodes open and some edges to cross, from one traversal to
another one: an edge closes a cycle, leads to a node that is known and not open, or leads to a new
node, behind which the traversal goes on first. -/
inductive Descends (g : Graph) :
    List String → List Edge → Traversal → Traversal → Prop where
  | done (trail : List String) (t : Traversal) : Descends g trail [] t t
  | closes {trail : List String} {e : Edge} {es : List Edge} {t t' : Traversal}
      (ready : g.Ready trail (e :: es) t) (back : e.target ∈ trail)
      (rest : Descends g trail es { t with closing := e :: t.closing } t') :
      Descends g trail (e :: es) t t'
  | knows {trail : List String} {e : Edge} {es : List Edge} {t t' : Traversal}
      (ready : g.Ready trail (e :: es) t) (notBack : e.target ∉ trail)
      (known : e.target ∈ t.entered) (rest : Descends g trail es t t') :
      Descends g trail (e :: es) t t'
  | enters {trail : List String} {e : Edge} {es : List Edge} {m : Node} {t t₁ t' : Traversal}
      (ready : g.Ready trail (e :: es) t) (fresh : e.target ∉ t.entered) (found : m.id = e.target)
      (behind : Descends g (e.target :: trail) (g.successors m)
        { t with entered := e.target :: t.entered } t₁)
      (rest : Descends g trail es t₁ t') : Descends g trail (e :: es) t t'

/-- Crossing edges is a derivation when going behind a new node is one. -/
theorem foldl_cross_descends {fuel : Nat}
    (ih : ∀ trail n t, g.Ready trail (g.successors n) t → g.unmet t.entered < fuel →
      g.Descends trail (g.successors n) t (g.explore fuel trail n t)) {trail : List String} :
    ∀ es t, g.Ready trail es t → g.unmet t.entered < fuel + 1 →
      g.Descends trail es t (es.foldl (g.cross fuel trail) t) := by
  intro es
  induction es with
  | nil => exact fun t _ _ => .done trail t
  | cons e es ihes =>
    intro t ready hfuel
    rw [List.foldl_cons]
    have hgrow := (g.cross_extends fuel trail t e).entered
    have hrest := ihes (g.cross fuel trail t e) (ready.tail hgrow)
      (Nat.lt_of_le_of_lt (g.unmet_anti hgrow) hfuel)
    rcases cross_cases fuel trail t (ready.edges e List.mem_cons_self).2.2 with
      ⟨hopen, heq⟩ | ⟨hopen, hold, heq⟩ | ⟨hopen, hfresh, m, hm, hid, heq⟩
    · rw [heq] at hrest ⊢
      exact .closes ready hopen hrest
    · rw [heq] at hrest ⊢
      exact .knows ready hopen hold hrest
    · have hless := unmet_lt hm (by rwa [hid])
      rw [hid] at heq hless
      have hbehind := ih (e.target :: trail) m { t with entered := e.target :: t.entered }
        (ready.enter hfresh hid) (by show g.unmet (e.target :: t.entered) < fuel; omega)
      rw [← heq] at hbehind
      exact .enters ready hfresh hid hbehind hrest

theorem explore_descends (g : Graph) : ∀ fuel trail n t, g.Ready trail (g.successors n) t →
    g.unmet t.entered < fuel → g.Descends trail (g.successors n) t (g.explore fuel trail n t) := by
  intro fuel
  induction fuel with
  | zero =>
    intro trail n t _ hfuel
    omega
  | succ fuel ih => exact fun trail n t => foldl_cross_descends ih (g.successors n) t

theorem ready_start {start : Node} (h : g.hasNode start.id = true) :
    g.Ready [start.id] (g.successors start) { entered := [start.id] } where
  edges e he := by
    obtain ⟨hmem, hsource, hnode⟩ := mem_successors.mp he
    exact ⟨hmem, congrArg some hsource.symm, hnode⟩
  entered _ hid := hid
  nodes id hid := by rwa [List.mem_singleton.mp hid]
  way := .singleton _
  nodup := List.nodup_singleton _

/-- **A traversal is a derivation.** -/
theorem traversal_descends {start : Node} (h : g.hasNode start.id = true) :
    g.Descends [start.id] (g.successors start) { entered := [start.id] } (g.traversal start) :=
  g.explore_descends _ _ _ _ (ready_start h) (Nat.lt_succ_of_le (g.unmet_le _))

/-! ## 3. The ids that are entered -/

namespace Descends

variable {trail : List String} {es : List Edge} {t t' : Traversal}

theorem grows (h : g.Descends trail es t t') : ∀ id ∈ t.entered, id ∈ t'.entered := by
  induction h with
  | done => exact fun _ hid => hid
  | closes _ _ _ ih => exact ih
  | knows _ _ _ _ ih => exact ih
  | enters _ _ _ _ _ ihbehind ih =>
    exact fun id hid => ih id (ihbehind id (List.mem_cons_of_mem _ hid))

/-- What is entered can be reached when the open nodes can. -/
theorem reaches {start : String} (h : g.Descends trail es t t')
    (htrail : ∀ id ∈ trail, g.Reaches start id) :
    ∀ id ∈ t'.entered, id ∈ t.entered ∨ g.Reaches start id := by
  induction h with
  | done => exact fun _ hid => Or.inl hid
  | closes _ _ _ ih => exact ih htrail
  | knows _ _ _ _ ih => exact ih htrail
  | enters ready _ _ _ _ ihbehind ih =>
    have hbehind := ready.reaches_enter htrail
    intro id hid
    rcases ih htrail id hid with hid | hid
    · rcases ihbehind hbehind id hid with hid | hid
      · rcases List.mem_cons.mp hid with rfl | hid
        · exact Or.inr (hbehind _ List.mem_cons_self)
        · exact Or.inl hid
      · exact Or.inr hid
    · exact Or.inr hid

/-- The targets of the edges that were crossed are entered. -/
theorem targets_mem (h : g.Descends trail es t t') : ∀ e ∈ es, e.target ∈ t'.entered := by
  induction h with
  | done => exact fun e he => absurd he List.not_mem_nil
  | closes ready back rest ih =>
    intro e he
    rcases List.mem_cons.mp he with rfl | he
    · exact rest.grows _ (ready.entered _ back)
    · exact ih e he
  | knows _ _ known rest ih =>
    intro e he
    rcases List.mem_cons.mp he with rfl | he
    · exact rest.grows _ known
    · exact ih e he
  | enters _ _ _ behind rest _ ih =>
    intro e he
    rcases List.mem_cons.mp he with rfl | he
    · exact rest.grows _ (behind.grows _ List.mem_cons_self)
    · exact ih e he

/-- Whatever a new id is linked to is entered as well. -/
theorem closed (h : g.Descends trail es t t') : ∀ id ∈ t'.entered, id ∉ t.entered →
    ∀ next, g.Links id next → next ∈ t'.entered := by
  induction h with
  | done => exact fun _ hid hnew => absurd hid hnew
  | closes _ _ _ ih => exact ih
  | knows _ _ _ _ ih => exact ih
  | @enters trail e es m t t₁ t' _ _ hm behind rest ihbehind ih =>
    intro id hid hnew next hlink
    by_cases hbehind : id ∈ t₁.entered
    · refine rest.grows _ ?_
      by_cases htarget : id = e.target
      · -- the edges of the new node itself were crossed behind it
        obtain ⟨e', he', hsource, rfl, -, hnode⟩ := hlink
        exact behind.targets_mem e'
          (mem_successors.mpr ⟨he', hsource.trans (htarget.trans hm.symm), hnode⟩)
      · refine ihbehind id hbehind (fun hmem => ?_) next hlink
        exact hnew ((List.mem_cons.mp hmem).resolve_left htarget)
    · exact ih id hid hbehind next hlink

end Descends

/-- **A traversal enters the ids that can be reached** from its start. -/
theorem mem_entered_iff {start : Node} (h : g.hasNode start.id = true) (id : String) :
    id ∈ (g.traversal start).entered ↔ g.Reaches start.id id := by
  have hdesc := traversal_descends h
  constructor
  · intro hid
    have htrail : ∀ x ∈ [start.id], g.Reaches start.id x := by
      intro x hx
      rw [List.mem_singleton.mp hx]
      exact .refl
    rcases hdesc.reaches htrail id hid with hid | hid
    · exact htrail id hid
    · exact hid
  · intro hreach
    refine hreach.mem_of_closed (g.start_mem_entered start) fun x hx next hlink => ?_
    by_cases hstart : x = start.id
    · obtain ⟨e, he, hsource, rfl, -, hnode⟩ := hlink
      exact hdesc.targets_mem e (mem_successors.mpr ⟨he, hsource.trans hstart, hnode⟩)
    · exact hdesc.closed x hx (fun hmem => hstart (List.mem_singleton.mp hmem)) next hlink

end Workgraph.Graph
