import Mathlib.Data.List.Basic
import Workgraph.Run.Chain

/-!
# Through which edge a node is left

A run sorts the edges out of a node, keeps those of the chosen output and takes the first along
which the chain of control can go on. This file says which edge that is, without a sorted list:

* `Graph.CanTake` says that the chain can go on along an edge: it leaves the node through the
  output, its target exists, and it enters the target through an input of the control flow;
* `Graph.Takes` says that an edge is the least of those by target id, then by edge id, then by its
  place in the graph;
* `through?_eq_some_iff` and `through?_eq_none_iff` are the two halves: the run goes on along the
  edge that is taken, and stops exactly where the chain can go on along no edge.

A stable sort keeps the order of equal elements; `split_of_mergeSort_eq` is what that means for the
first element of some kind.
-/

namespace Workgraph

/-! ## 1. The first of a kind in a sorted list -/

section Sorted

variable {α : Type} {le : α → α → Bool}

/-- **The first element of a kind in a sorted list**: in the list before it was sorted, elements of
the kind that stand in front of it are greater, and those behind it are not less. -/
theorem split_of_mergeSort_eq (trans : ∀ a b c, le a b → le b c → le a c)
    (total : ∀ a b, le a b || le b a) {l front back : List α} {a : α} {p : α → Prop}
    (h : l.mergeSort le = front ++ a :: back) (hfront : ∀ b ∈ front, ¬ p b) :
    ∃ l₁ l₂, l = l₁ ++ a :: l₂ ∧ (∀ b ∈ l₁, p b → le b a = false) ∧
      ∀ b ∈ l₂, p b → le a b = true := by
  -- sorted together with their places, no two elements are equal
  have hz : (l.zipIdx.mergeSort (List.zipIdxLE le)).map (·.1) = front ++ a :: back := by
    rw [List.mergeSort_zipIdx, h]
  obtain ⟨zs, rest, hzs, hfst, hrest⟩ := List.map_eq_append_iff.mp hz
  obtain ⟨⟨a', k⟩, ws, rfl, rfl, -⟩ := List.map_eq_cons_iff.mp hrest
  have hsorted := List.pairwise_mergeSort (List.zipIdxLE_trans trans) (List.zipIdxLE_total total)
    l.zipIdx
  rw [hzs] at hsorted
  have hmem : ∀ {b : α} {j : Nat}, l[j]? = some b → (b, j) ∈ zs ++ (a', k) :: ws := by
    intro b j hj
    rw [← hzs, List.mem_mergeSort, List.mem_zipIdx_iff_getElem?]
    exact hj
  have hk : l[k]? = some a' := by
    have hin : (a', k) ∈ l.zipIdx.mergeSort (List.zipIdxLE le) := by rw [hzs]; simp
    rwa [List.mem_mergeSort, List.mem_zipIdx_iff_getElem?] at hin
  have hle : ∀ {b : α} {j : Nat}, l[j]? = some b → j ≠ k → p b →
      List.zipIdxLE le (a', k) (b, j) = true := by
    intro b j hj hjk hb
    rcases List.mem_append.mp (hmem hj) with hz' | hw
    · exact absurd hb (hfront b (by rw [← hfst]; exact List.mem_map_of_mem hz'))
    · rcases List.mem_cons.mp hw with e | hw
      · exact absurd (congrArg Prod.snd e) hjk
      · exact (List.pairwise_cons.mp (List.pairwise_append.mp hsorted).2.1).1 _ hw
  obtain ⟨hlt, hget⟩ := List.getElem?_eq_some_iff.mp hk
  refine ⟨l.take k, l.drop (k + 1), ?_, fun b hb hpb => ?_, fun b hb hpb => ?_⟩
  · rw [← hget, List.getElem_cons_drop, List.take_append_drop]
  · obtain ⟨j, hj, rfl⟩ := List.mem_take_iff_getElem.mp hb
    have hjl : j < l.length := by omega
    have := hle (List.getElem?_eq_getElem hjl) (by omega) hpb
    cases hba : le l[j] a' with
    | false => rfl
    | true =>
      simp only [List.zipIdxLE, hba] at this
      split at this
      · have := of_decide_eq_true this
        omega
      · cases this
  · obtain ⟨j, hj, rfl⟩ := List.mem_drop_iff_getElem.mp hb
    have := hle (List.getElem?_eq_getElem (by omega)) (by omega) hpb
    simp only [List.zipIdxLE] at this
    split at this
    · assumption
    · cases this

end Sorted

/-! ## 2. Ports and the order of routes -/

/-- A port that an edge end refers to is the first with its id. -/
theorem findPort_withId {ports : List Port} {explicit : Option String} {canonical : String}
    {i : Nat} {p : Port} (h : findPort ports explicit canonical = some (i, p)) :
    portWithId? p.id ports = some (i, p) := by
  have named : ∀ id, portWithId? id ports = some (i, p) → portWithId? p.id ports = some (i, p) := by
    intro id hid
    have hp : p.id = id := by
      obtain ⟨k, hk, hget⟩ := Option.bind_eq_some_iff.mp hid
      obtain ⟨q, hq, e⟩ := Option.map_eq_some_iff.mp hget
      obtain ⟨rfl, rfl⟩ := Prod.mk.inj e
      obtain ⟨hlt, hkid, -⟩ := List.findIdx?_eq_some_iff_getElem.mp hk
      rw [List.getElem?_eq_getElem hlt, Option.some.injEq] at hq
      rw [← hq]
      exact of_decide_eq_true hkid
    rwa [hp]
  unfold findPort at h
  split at h
  · exact named _ h
  · obtain ⟨rfl, rfl⟩ := Prod.mk.inj (Option.some.inj h)
    simp [portWithId?]
  · exact named _ h

namespace Route

/-- Routes through one output agree on its position. -/
theorem portIndex_routeOf_eq {n : Node} {e e' : Edge} {port : String}
    (h : (Graph.routeOf n e).portId = some port) (h' : (Graph.routeOf n e').portId = some port) :
    (Graph.routeOf n e).portIndex = (Graph.routeOf n e').portIndex := by
  obtain ⟨⟨i, p⟩, hp, rfl⟩ := Option.map_eq_some_iff.mp h
  obtain ⟨⟨j, q⟩, hq, hpq⟩ := Option.map_eq_some_iff.mp h'
  have e₁ := findPort_withId hp
  have e₂ := findPort_withId hq
  simp only at hpq
  rw [hpq, e₁] at e₂
  simp only [Graph.routeOf, portIndex] at hp hq ⊢
  rw [hp, hq, ← Option.some.inj e₂]

theorem indexLe_trans {a b c : Option Nat} (h : indexLe a b = true) (h' : indexLe b c = true) :
    indexLe a c = true := by
  cases a <;> cases b <;> cases c <;> simp_all [indexLe]
  omega

theorem indexLe_total (a b : Option Nat) : indexLe a b = true ∨ indexLe b a = true := by
  cases a <;> cases b <;> simp [indexLe]
  omega

theorem indexLe_antisymm {a b : Option Nat} (h : indexLe a b = true) (h' : indexLe b a = true) :
    a = b := by
  cases a <;> cases b <;> simp_all [indexLe]
  omega

/-- The order of routes, key by key. -/
theorem before_iff (a b : Route) : before a b = true ↔
    (a.portIndex ≠ b.portIndex ∧ indexLe a.portIndex b.portIndex = true) ∨
      (a.portIndex = b.portIndex ∧ (a.edge.target < b.edge.target ∨
        (a.edge.target = b.edge.target ∧ a.edge.id ≤ b.edge.id))) := by
  unfold before
  by_cases hp : a.portIndex = b.portIndex
  · by_cases ht : a.edge.target = b.edge.target
    · simp [hp, ht]
    · simp [hp, ht]
  · simp [hp]

theorem before_total (a b : Route) : (before a b || before b a) = true := by
  rw [Bool.or_eq_true, before_iff, before_iff]
  by_cases hp : a.portIndex = b.portIndex
  · by_cases ht : a.edge.target = b.edge.target
    · rcases String.le_total a.edge.id b.edge.id with h | h
      · exact Or.inl (Or.inr ⟨hp, Or.inr ⟨ht, h⟩⟩)
      · exact Or.inr (Or.inr ⟨hp.symm, Or.inr ⟨ht.symm, h⟩⟩)
    · rcases String.le_total a.edge.target b.edge.target with h | h
      · exact Or.inl (Or.inr ⟨hp, Or.inl (Std.lt_of_le_of_ne h ht)⟩)
      · exact Or.inr (Or.inr ⟨hp.symm, Or.inl (Std.lt_of_le_of_ne h (Ne.symm ht))⟩)
  · rcases indexLe_total a.portIndex b.portIndex with h | h
    · exact Or.inl (Or.inl ⟨hp, h⟩)
    · exact Or.inr (Or.inl ⟨Ne.symm hp, h⟩)

theorem before_trans (a b c : Route) (h : before a b = true) (h' : before b c = true) :
    before a c = true := by
  rw [before_iff] at h h' ⊢
  rcases h with ⟨hp, hle⟩ | ⟨hp, h⟩
  · rcases h' with ⟨hp', hle'⟩ | ⟨hp', -⟩
    · refine Or.inl ⟨fun e => hp ?_, indexLe_trans hle hle'⟩
      exact indexLe_antisymm hle (e ▸ hle')
    · exact Or.inl ⟨hp' ▸ hp, hp' ▸ hle⟩
  · rw [hp]
    rcases h' with ⟨hp', hle'⟩ | ⟨hp', h'⟩
    · exact Or.inl ⟨hp', hle'⟩
    · refine Or.inr ⟨hp', ?_⟩
      rcases h with ht | ⟨ht, hid⟩ <;> rcases h' with ht' | ⟨ht', hid'⟩
      · exact Or.inl (String.lt_trans ht ht')
      · exact Or.inl (ht' ▸ ht)
      · exact Or.inl (ht ▸ ht')
      · exact Or.inr ⟨ht.trans ht', String.le_trans hid hid'⟩

end Route

/-! ## 3. The edge that is taken -/

/-- An edge along which the chain of control can go on from a node through an output. -/
structure Graph.CanTake (g : Graph) (n : Node) (port : String) (e : Edge) (m : Node) : Prop where
  source : e.source = n.id
  output : ∃ i p, findPort n.outputPorts e.sourcePort PortId.output = some (i, p) ∧ p.id = port
  target : g.findNode? e.target = some m
  flow : ∃ i p, findPort m.inputPorts e.targetPort PortId.input = some (i, p) ∧ p.kind = .flow

/-- Whether an edge comes before or with another, given their places in the graph. -/
def Edge.Precedes (e : Edge) (i : Nat) (e' : Edge) (j : Nat) : Prop :=
  e.target < e'.target ∨ (e.target = e'.target ∧ (e.id < e'.id ∨ (e.id = e'.id ∧ i ≤ j)))

/-- **The edge along which a node is left through an output**: of the edges that can be taken, the
least by target id, then by edge id, then by its place in the graph. -/
def Graph.Takes (g : Graph) (n : Node) (port : String) (e : Edge) (m : Node) : Prop :=
  g.CanTake n port e m ∧ ∃ i : Nat, g.edges[i]? = some e ∧ ∀ (j : Nat) e' m',
    g.edges[j]? = some e' → g.CanTake n port e' m' → e.Precedes i e' j

theorem Edge.isFlow_iff (e : Edge) (m : Node) : e.isFlow m = true ↔
    ∃ i p, findPort m.inputPorts e.targetPort PortId.input = some (i, p) ∧ p.kind = .flow := by
  unfold Edge.isFlow Edge.landing?
  cases h : findPort m.inputPorts e.targetPort PortId.input with
  | none => simp
  | some ip =>
    obtain ⟨i, p⟩ := ip
    simp

theorem portId_routeOf_eq_some_iff (n : Node) (e : Edge) (port : String) :
    (Graph.routeOf n e).portId = some port ↔
      ∃ i p, findPort n.outputPorts e.sourcePort PortId.output = some (i, p) ∧ p.id = port := by
  simp [Graph.routeOf, Route.portId]

namespace Graph

variable {g : Graph} {n m m' : Node} {port : String} {e e' : Edge}

/-- An edge can be taken when it is one of the node's, its route has the output, and it leads on. -/
theorem canTake_iff : g.CanTake n port e m ↔
    e.source = n.id ∧ (routeOf n e).portId = some port ∧ g.follow? e = some m := by
  rw [portId_routeOf_eq_some_iff]
  constructor
  · intro h
    refine ⟨h.source, h.output, ?_⟩
    unfold follow?
    rw [h.target, Option.filter_some, (e.isFlow_iff m).mpr h.flow, if_pos rfl]
  · rintro ⟨hs, ho, hf⟩
    obtain ⟨ht, hflow⟩ := Option.filter_eq_some_iff.mp hf
    exact ⟨hs, ho, ht, (e.isFlow_iff m).mp hflow⟩

theorem CanTake.target_unique (h : g.CanTake n port e m) (h' : g.CanTake n port e m') : m = m' :=
  Option.some.inj (h.target.symm.trans h'.target)

/-- Among the edges that can be taken, routes are ordered by target id and edge id. -/
theorem before_routeOf_iff (h : g.CanTake n port e m) (h' : g.CanTake n port e' m') :
    Route.before (routeOf n e) (routeOf n e') = true ↔
      e.target < e'.target ∨ (e.target = e'.target ∧ e.id ≤ e'.id) := by
  have hp := Route.portIndex_routeOf_eq (canTake_iff.mp h).2.1 (canTake_iff.mp h').2.1
  rw [Route.before_iff]
  simp only [hp, ne_eq, not_true_eq_false, false_and, true_and, false_or]
  exact Iff.rfl

/-- Where the chain goes on: some route of the output leads there, and none before it leads on. -/
theorem through?_eq_some_split (h : g.through? n port = some m) :
    ∃ front back e, g.routes n = front ++ routeOf n e :: back ∧ g.CanTake n port e m ∧
      ∀ r ∈ front, ∀ e' m', r = routeOf n e' → ¬ g.CanTake n port e' m' := by
  unfold through? at h
  rw [List.findSome?_eq_some_iff] at h
  obtain ⟨kept, r, rest, hsplit, hr, hnone⟩ := h
  obtain ⟨front, back, hroutes, hkept, hback⟩ := List.filter_eq_append_iff.mp hsplit
  obtain ⟨skipped, back', rfl, hskip, hrp, -⟩ := List.filter_eq_cons_iff.mp hback
  have hin : r ∈ (g.outgoing n.id).map (routeOf n) := by
    have : r ∈ g.routes n := by rw [hroutes]; simp
    rwa [routes, List.mem_mergeSort] at this
  obtain ⟨e, he, rfl⟩ := List.mem_map.mp hin
  have hsrc : e.source = n.id := of_decide_eq_true (List.mem_filter.mp he).2
  refine ⟨front ++ skipped, back', e, by rw [hroutes, List.append_assoc],
    canTake_iff.mpr ⟨hsrc, of_decide_eq_true hrp, hr⟩, ?_⟩
  rintro r' hr' e' m' rfl htake
  obtain ⟨-, hport, hfollow⟩ := canTake_iff.mp htake
  rcases List.mem_append.mp hr' with h' | h'
  · have : routeOf n e' ∈ kept := by
      rw [← hkept]
      exact List.mem_filter.mpr ⟨h', decide_eq_true hport⟩
    have hno := hnone _ this
    rw [show (routeOf n e').edge = e' from rfl, hfollow] at hno
    cases hno
  · exact hskip _ h' (decide_eq_true hport)

/-- The edges around an edge of a node, in the graph rather than among the edges of the node. -/
theorem edges_split_of_outgoing {id : String} {o₁ o₂ : List Edge}
    (h : g.outgoing id = o₁ ++ e :: o₂) : ∃ f₁ f₂, g.edges = f₁ ++ e :: f₂ ∧
      (∀ e' ∈ f₁, e'.source = id → e' ∈ o₁) ∧ ∀ e' ∈ f₂, e'.source = id → e' ∈ o₂ := by
  obtain ⟨f₁, f₂, hf, rfl, hf₂⟩ := List.filter_eq_append_iff.mp h
  obtain ⟨skipped, f₃, rfl, hskip, -, rfl⟩ := List.filter_eq_cons_iff.mp hf₂
  refine ⟨f₁ ++ skipped, f₃, by rw [hf, List.append_assoc], fun e' he' hs => ?_,
    fun e' he' hs => List.mem_filter.mpr ⟨he', decide_eq_true hs⟩⟩
  rcases List.mem_append.mp he' with h' | h'
  · exact List.mem_filter.mpr ⟨h', decide_eq_true hs⟩
  · exact absurd (decide_eq_true hs) (hskip _ h')

/-- **The run goes on along the edge that is taken.** -/
theorem exists_takes_of_through? (h : g.through? n port = some m) : ∃ e, g.Takes n port e m := by
  obtain ⟨front, back, e, hroutes, htake, hfront⟩ := through?_eq_some_split h
  obtain ⟨l₁, l₂, hl, hbefore, hafter⟩ := split_of_mergeSort_eq Route.before_trans
    Route.before_total (p := fun r => ∃ e' m', r = routeOf n e' ∧ g.CanTake n port e' m') hroutes
    (fun r hr ⟨e', m', he', h'⟩ => hfront r hr e' m' he' h')
  obtain ⟨o₁, o₂, ho, rfl, ho₂⟩ := List.map_eq_append_iff.mp hl
  obtain ⟨e₀, o₂, rfl, he₀, rfl⟩ := List.map_eq_cons_iff.mp ho₂
  obtain rfl : e₀ = e := congrArg Route.edge he₀
  obtain ⟨f₁, f₂, hf, hf₁, hf₂⟩ := edges_split_of_outgoing ho
  refine ⟨e₀, htake, f₁.length, by rw [hf]; simp, fun j e' m' hj htake' => ?_⟩
  rw [hf] at hj
  by_cases hlt : j < f₁.length
  · -- an edge in front of it is greater
    rw [List.getElem?_append_left hlt] at hj
    have hmem := hf₁ e' (List.mem_of_getElem? hj) htake'.source
    have hno := hbefore _ (List.mem_map_of_mem hmem) ⟨e', m', rfl, htake'⟩
    have hgt : ¬ (e'.target < e₀.target ∨ (e'.target = e₀.target ∧ e'.id ≤ e₀.id)) := by
      rw [← before_routeOf_iff htake' htake, hno]
      exact Bool.false_ne_true
    rw [not_or, not_and, String.not_lt, String.not_le] at hgt
    by_cases ht : e₀.target = e'.target
    · exact Or.inr ⟨ht, Or.inl (hgt.2 ht.symm)⟩
    · exact Or.inl (Std.lt_of_le_of_ne hgt.1 ht)
  · have hle : f₁.length ≤ j := by omega
    rw [List.getElem?_append_right hle] at hj
    rcases List.mem_cons.mp (List.mem_of_getElem? hj) with rfl | hmem
    · exact Or.inr ⟨rfl, Or.inr ⟨rfl, hle⟩⟩
    · have hyes := hafter _ (List.mem_map_of_mem (hf₂ e' hmem htake'.source)) ⟨e', m', rfl, htake'⟩
      rcases (before_routeOf_iff htake htake').mp hyes with ht | ⟨ht, hid⟩
      · exact Or.inl ht
      · refine Or.inr ⟨ht, ?_⟩
        by_cases he : e₀.id = e'.id
        · exact Or.inr ⟨he, hle⟩
        · exact Or.inl (Std.lt_of_le_of_ne hid he)

/-- **The run stops exactly where the chain can go on along no edge.** -/
theorem through?_eq_none_iff :
    g.through? n port = none ↔ ∀ e ∈ g.edges, ∀ m, ¬ g.CanTake n port e m := by
  unfold through?
  rw [List.findSome?_eq_none_iff]
  constructor
  · intro h e he m htake
    obtain ⟨hs, hp, hf⟩ := canTake_iff.mp htake
    have hr : routeOf n e ∈ g.routes n := by
      rw [routes, List.mem_mergeSort]
      exact List.mem_map_of_mem (List.mem_filter.mpr ⟨he, decide_eq_true hs⟩)
    have hno := h _ (List.mem_filter.mpr ⟨hr, decide_eq_true hp⟩)
    rw [show (routeOf n e).edge = e from rfl, hf] at hno
    cases hno
  · intro h r hr
    obtain ⟨hr, hp⟩ := List.mem_filter.mp hr
    rw [routes, List.mem_mergeSort] at hr
    obtain ⟨e, he, rfl⟩ := List.mem_map.mp hr
    obtain ⟨he, hs⟩ := List.mem_filter.mp he
    cases hf : g.follow? e with
    | none => exact hf
    | some m =>
      exact absurd (canTake_iff.mpr ⟨of_decide_eq_true hs, of_decide_eq_true hp, hf⟩) (h e he m)

/-- Two edges that are taken are one: the order has no ties. -/
theorem Takes.target_unique (h : g.Takes n port e m) (h' : g.Takes n port e' m') : m = m' := by
  obtain ⟨htake, i, hi, hleast⟩ := h
  obtain ⟨htake', j, hj, hleast'⟩ := h'
  have hij : i = j := by
    rcases hleast j e' m' hj htake' with h₁ | ⟨ht, h₁⟩
    · rcases hleast' i e m hi htake with h₂ | ⟨ht, -⟩
      · exact absurd h₂ (String.lt_asymm h₁)
      · exact absurd (ht ▸ h₁) (String.lt_irrefl _)
    · rcases hleast' i e m hi htake with h₂ | ⟨-, h₂⟩
      · exact absurd (ht ▸ h₂) (String.lt_irrefl _)
      · rcases h₁ with h₁ | ⟨hid, h₁⟩ <;> rcases h₂ with h₂ | ⟨hid', h₂⟩
        · exact absurd h₂ (String.lt_asymm h₁)
        · exact absurd (hid' ▸ h₁) (String.lt_irrefl _)
        · exact absurd (hid ▸ h₂) (String.lt_irrefl _)
        · omega
  subst hij
  rw [hi] at hj
  obtain rfl := Option.some.inj hj
  exact htake.target_unique htake'

/-- **Where an output leads**: to the target of the edge that is taken. -/
theorem through?_eq_some_iff : g.through? n port = some m ↔ ∃ e, g.Takes n port e m := by
  refine ⟨exists_takes_of_through?, fun ⟨e, h⟩ => ?_⟩
  cases hm : g.through? n port with
  | none =>
    obtain ⟨htake, i, hi, -⟩ := h
    exact absurd htake (through?_eq_none_iff.mp hm e (List.mem_of_getElem? hi) m)
  | some m' =>
    obtain ⟨e', h'⟩ := exists_takes_of_through? hm
    rw [h'.target_unique h]

end Graph

end Workgraph
