import Workgraph.Proofs.Validity

/-!
# Where an edge lands, and which edges an input reads

An edge lands on the input that it names; without a name it lands on the only input, or on the
canonical one. So say the checks and the chain of control. A value on demand is looked up from the
other end: an input reads the edges that name it, and the canonical input reads those without a name
as well.

* `names_iff_landing` compares the two for one edge: they agree unless the edge has no name and
  leads to a tool provider, whose only input is not the canonical one.
* `Graph.isWired_iff` and `Tools.isOpen_iff` say what is looked up: whether some edge names an
  input, and whether something turns a provider off.
* `ReadsLandings` is the account of all inputs of a node, and says where the two ways part:
  `gatedCoin_ungated` shows a provider whose gate is wired without a name. The checks accept it, and
  the gate is not looked at.
-/

namespace Workgraph

/-! ## 1. One edge and one input -/

/-- An input is found by its id. -/
theorem portWithId?_input (t : NodeType) : ∀ p ∈ (definitionOf t).inputs,
    (portWithId? p.id (definitionOf t).inputs).map (·.2) = some p := by
  cases t <;> decide

/-- An edge without a name lands on the canonical input wherever it exists, and otherwise only on
the input of a provider. -/
theorem landing_unnamed_iff (t : NodeType) : ∀ p ∈ (definitionOf t).inputs,
    ((findPort (definitionOf t).inputs none PortId.input).map (·.2) = some p ∧
      t.isToolProvider = false ↔ p.id = PortId.input) := by
  cases t <;> decide

theorem inputs_of_provider {t : NodeType} (h : t.isToolProvider = true) :
    (definitionOf t).inputs = Definition.providerInputs := by
  cases t <;> first | rfl | cases h

/-- A port that is found by an id has it. -/
theorem portWithId?_id {id : String} {ports : List Port} {i : Nat} {p : Port}
    (h : portWithId? id ports = some (i, p)) : p.id = id := by
  obtain ⟨k, hk, hget⟩ := Option.bind_eq_some_iff.mp h
  obtain ⟨q, hq, heq⟩ := Option.map_eq_some_iff.mp hget
  obtain ⟨rfl, rfl⟩ := Prod.mk.inj heq
  obtain ⟨hlt, hid, -⟩ := List.findIdx?_eq_some_iff_getElem.mp hk
  rw [List.getElem?_eq_getElem hlt, Option.some.injEq] at hq
  rw [← hq]
  exact of_decide_eq_true hid

/-- **Landing on an input and being read by it** are the same for an edge, unless it has no name and
leads to a provider. -/
theorem names_iff_landing (e : Edge) {n : Node} {p : Port} (hp : p ∈ n.inputPorts) :
    e.names p.id = true ↔
      e.landing? n = some p ∧ (e.targetPort = none → n.type.isToolProvider = false) := by
  unfold Edge.names Edge.landing?
  cases hport : e.targetPort with
  | none =>
    rw [decide_eq_true_iff, ← landing_unnamed_iff n.type p hp]
    exact and_congr_right fun _ => ⟨fun h _ => h, fun h => h rfl⟩
  | some id =>
    rw [decide_eq_true_iff]
    constructor
    · rintro rfl
      exact ⟨portWithId?_input n.type p hp, nofun⟩
    · rintro ⟨h, -⟩
      obtain ⟨⟨i, q⟩, hfound, rfl⟩ := Option.map_eq_some_iff.mp h
      exact (portWithId?_id hfound).symm

/-! ## 2. What is looked up -/

namespace Graph

variable {g : Graph}

/-- An input is wired when some edge names it. -/
theorem isWired_iff {id port : String} :
    g.isWired id port = true ↔ ∃ e ∈ g.incoming id, e.names port = true := by
  unfold isWired edgeInto?
  rw [List.isSome_head?]
  constructor
  · intro h
    obtain ⟨e, he⟩ := List.exists_mem_of_ne_nil _ h
    exact ⟨e, List.mem_filter.mp (List.mem_mergeSort.mp he)⟩
  · rintro ⟨e, he, hnames⟩
    exact List.ne_nil_of_mem (List.mem_mergeSort.mpr (List.mem_filter.mpr ⟨he, hnames⟩))

/-- The input of a provider is named by its id only. -/
theorem names_enable_iff {e : Edge} :
    e.names PortId.enable = true ↔ e.targetPort = some PortId.enable := by
  unfold Edge.names
  cases e.targetPort with
  | none => decide
  | some p => rw [decide_eq_true_iff, Option.some.injEq]

end Graph

/-- A provider is open when nothing names its gate, or when the value at the gate turns it on. -/
theorem Tools.isOpen_iff {e : ScriptEngine} {g : Graph} {s : RunState} {n : Node} {r : Resolver} :
    (isOpen e g s n r).1 = true ↔
      (∀ edge ∈ g.incoming n.id, edge.targetPort ≠ some PortId.enable) ∨
        ∃ v, (Resolver.input? e g s n.id PortId.enable r).1 = some v ∧ isEnabled v = true := by
  have hwired : g.isWired n.id PortId.enable = true ↔
      ∃ edge ∈ g.incoming n.id, edge.targetPort = some PortId.enable := by
    simp only [Graph.isWired_iff, Graph.names_enable_iff]
  unfold isOpen
  split
  next h =>
    obtain ⟨edge, hedge, hnamed⟩ := hwired.mp h
    rw [or_iff_right fun hnone => hnone edge hedge hnamed]
    exact Option.any_eq_true isEnabled _
  next h =>
    have hnone : ∀ edge ∈ g.incoming n.id, edge.targetPort ≠ some PortId.enable :=
      fun edge hedge hnamed => h (hwired.mpr ⟨edge, hedge, hnamed⟩)
    exact ⟨fun _ => .inl hnone, fun _ => rfl⟩

/-! ## 3. All inputs of a node -/

/-- **How the inputs of a node are read**, measured by where the edges into it land. -/
structure ReadsLandings (g : Graph) (n : Node) : Prop where
  /-- An input of a node that is no provider is wired just when an edge lands on it. -/
  agrees : n.type.isToolProvider = false → ∀ p ∈ n.inputPorts,
    (g.isWired n.id p.id = true ↔ ∃ e ∈ g.incoming n.id, e.landing? n = some p)
  /-- Every edge without a name lands on the gate of a provider. -/
  lands : n.type.isToolProvider = true → ∀ e : Edge, e.targetPort = none →
    ∃ p ∈ n.inputPorts, e.landing? n = some p ∧ p.id = PortId.enable
  /-- It is left out when the gate is looked up: the gate is wired just when an edge lands on it by
  its id. -/
  overlooks : n.type.isToolProvider = true → ∀ p ∈ n.inputPorts,
    (g.isWired n.id p.id = true ↔
      ∃ e ∈ g.incoming n.id, e.landing? n = some p ∧ e.targetPort ≠ none)
  /-- So a provider into which every edge is without a name is open, whatever flows into it. -/
  ungated : (∀ e ∈ g.incoming n.id, e.targetPort = none) →
    ∀ engine s r, (Tools.isOpen engine g s n r).1 = true

theorem Graph.readsLandings (g : Graph) (n : Node) : ReadsLandings g n where
  agrees hplain p hp := by
    rw [isWired_iff]
    refine exists_congr fun e => and_congr_right fun _ => (names_iff_landing e hp).trans ?_
    exact and_iff_left fun _ => hplain
  lands hprovider e hnone := by
    refine ⟨.optional PortId.enable "Enable" .data, ?_, ?_, rfl⟩
    · rw [Node.inputPorts, inputs_of_provider hprovider]
      exact List.mem_singleton_self _
    · rw [Edge.landing?, Node.inputPorts, inputs_of_provider hprovider, hnone]
      rfl
  overlooks hprovider p hp := by
    rw [isWired_iff]
    refine exists_congr fun e => and_congr_right fun _ => (names_iff_landing e hp).trans ?_
    refine and_congr_right fun _ => forall_congr' fun _ => ?_
    rw [hprovider]
    exact ⟨nofun, False.elim⟩
  ungated hall engine s r := by
    refine Tools.isOpen_iff.mpr (.inl fun e he hnamed => ?_)
    rw [hall e he] at hnamed
    cases hnamed

/-- A coin that the model may toss when a variable says so; the variable is wired to the only input
of the coin by an edge without a name. -/
def gatedCoin : Graph :=
  { nodes := [⟨"start", .start, .initial .start⟩, ⟨"ask", .completion, .initial .completion⟩,
      ⟨"gate", .getVariable,
        ⟨"Gate", "", false, .getVariable { path := "on", defaultValue := some (.bool false) }⟩⟩,
      ⟨"coin", .randomizer, .initial .randomizer⟩, ⟨"end", .finish, .initial .finish⟩]
    edges := [{ id := "1", source := "start", target := "ask", targetPort := some PortId.input },
      { id := "2", source := "coin", target := "ask", targetPort := some PortId.tools },
      { id := "3", source := "gate", target := "coin" },
      { id := "4", source := "ask", target := "end" }] }

/-- Nothing is wrong with the graph, and the edge lands on the gate and brings false; yet the gate
counts as not wired, and the coin is offered. -/
theorem gatedCoin_ungated :
    gatedCoin.issues = [] ∧
    (gatedCoin.findNode? "coin").map (fun coin => (gatedCoin.incoming "coin").map fun e =>
      (e.landing? coin).map (·.id)) = some [some PortId.enable] ∧
    (Resolver.value? (.limited {}) gatedCoin {} "gate" {}).1 = some (.bool false) ∧
    gatedCoin.isWired "coin" PortId.enable = false ∧
    (Tools.collect (.limited {}) gatedCoin {} {} "ask" {}).1.map (·.tools.map (·.providerId)) =
      .ok ["coin"] := by
  decide +kernel

end Workgraph
