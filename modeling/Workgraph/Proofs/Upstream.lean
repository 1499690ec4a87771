import Workgraph.Proofs.Snapshot

/-!
# Reading along a wiring that ends

Behind every node stands at most one other node that it reads, so a read follows one way upstream.
Where that way does not come back to itself, the reads of a state cannot disturb each other,
whatever was remembered before the first of them.

* `Graph.Straight` says that the way upstream of a node is free of cycles; then it ends
  (`Straight.acc`), and induction can follow it.
* `valueAfter?_of_straight` says that the nodes met before do not matter on such a way, and
  `get?_of_unread` that a read leaves alone what is remembered for nodes not on its way. Together
  they give the value of a node from the value of the node behind it (`value?_of_pure`).
* `value?_answersAlike` is the result: what one node provides is the same before and after another
  one was read, although the second read may compute and remember.
-/

namespace Workgraph

/-! ## 1. Ways without a cycle -/

namespace Graph

variable {g : Graph} {id source : String}

/-- Upstream of a node no node reads itself. -/
def Straight (g : Graph) (id : String) : Prop :=
  ∀ id', g.Reads id id' → ¬ Relation.TransGen g.Feeds id' id'

theorem Straight.behind (h : g.Straight id) (hfeeds : g.Feeds id source) : g.Straight source :=
  fun id' hreads => h id' (hreads.head hfeeds)

/-- A node on a way without a cycle is not read behind itself. -/
theorem Straight.not_reads (h : g.Straight id) (hfeeds : g.Feeds id source) :
    ¬ g.Reads source id :=
  fun hback => h id .refl (.head' hfeeds hback)

/-- Nodes that are not read from a node are not read from the node behind it. -/
theorem Straight.aside (h : g.Straight id) (hfeeds : g.Feeds id source) {met : List String}
    (haside : ∀ m ∈ met, ¬ g.Reads id m) : ∀ m ∈ id :: met, ¬ g.Reads source m := by
  intro m hm hreads
  rcases List.mem_cons.mp hm with rfl | hm
  · exact h.not_reads hfeeds hreads
  · exact haside m hm (hreads.head hfeeds)

/-- **A way without a cycle ends**: with every step there are fewer nodes that were not met. -/
theorem Straight.acc (h : g.Straight id) : Acc (fun source id => g.Feeds id source) id := by
  have hbounded : ∀ (k : Nat) (met : List String) (id : String), g.unmet met < k →
      g.Straight id → (∀ m ∈ met, ¬ g.Reads id m) →
      Acc (fun source id => g.Feeds id source) id := by
    intro k
    induction k with
    | zero => exact fun met id hk => absurd hk (Nat.not_lt_zero _)
    | succ k ih =>
      intro met id hk h haside
      refine .intro id fun source hfeeds => ?_
      have ⟨n, edge, hn, _⟩ := hfeeds
      have hid : id ∉ met := fun hmem => haside id hmem .refl
      have hless := unmet_lt_of_findNode? hn hid
      exact ih (id :: met) source (by omega) (h.behind hfeeds) (h.aside hfeeds haside)
  exact hbounded _ [] id (Nat.lt_succ_self _) h fun m hm => absurd hm List.not_mem_nil

end Graph

namespace Resolver

variable {e : ScriptEngine} {g : Graph} {s : RunState} {r r' : Resolver} {id m : String} {n : Node}

/-! ## 2. What a read leaves alone -/

/-- A node's value for an input depends on what is remembered for this node only. -/
theorem valueFor_congr (h : r'.memos.get? n.id = r.memos.get? n.id) (input : Json) :
    (valueFor e s n input r').1 = (valueFor e s n input r).1 := by
  have hstored : r'.stored? n.id n.data.body input s.generation =
      r.stored? n.id n.data.body input s.generation := by
    unfold stored?
    rw [h]
  unfold valueFor
  rw [hstored]
  split <;> rfl

/-- **A read leaves alone what is remembered for the nodes that it does not read.** -/
theorem get?_of_unread : ∀ (fuel : Nat) (met : List String) {id : String} (r : Resolver),
    ¬ g.Reads id m → (valueAfter? e g s fuel met id r).2.memos.get? m = r.memos.get? m := by
  intro fuel
  induction fuel with
  | zero => exact fun _ _ _ _ => rfl
  | succ fuel ih =>
    intro met id r hm
    by_cases hid : id ∈ met
    · rw [valueAfter?_of_mem hid]
    · cases hn : g.findNode? id with
      | none => rw [valueAfter?_of_absent hn]
      | some n =>
        cases hpure : n.type.isPure with
        | false => rw [valueAfter?_of_recorded hid hn hpure]
        | true =>
          obtain rfl := Graph.findNode?_id hn
          rw [valueAfter?_of_pure hid hn hpure]
          unfold computeAfter
          rw [valueFor_get?_of_ne]
          · unfold inputAfter
            cases hedge : g.edgeInto? n.id PortId.input with
            | none => rfl
            | some edge =>
              have hfeeds : g.Feeds n.id edge.source := ⟨n, edge, hn, hpure, hedge, rfl⟩
              exact ih _ r fun hreads => hm (hreads.head hfeeds)
          · rintro rfl
            exact hm .refl

/-! ## 3. The value of a node from the node behind it -/

/-- **On a way without a cycle the nodes met before do not matter**, if none of them is read. -/
theorem valueAfter?_of_straight : ∀ (fuel fuel' : Nat) (met met' : List String) {id : String}
    (r : Resolver), g.unmet met < fuel → g.unmet met' < fuel' → g.Straight id →
    (∀ m ∈ met, ¬ g.Reads id m) → (∀ m ∈ met', ¬ g.Reads id m) →
    valueAfter? e g s fuel met id r = valueAfter? e g s fuel' met' id r := by
  intro fuel
  induction fuel with
  | zero => exact fun _ _ _ _ _ hfuel => absurd hfuel (Nat.not_lt_zero _)
  | succ fuel ih =>
    intro fuel' met met' id r hfuel hfuel' h haside haside'
    obtain _ | fuel' := fuel'
    · exact absurd hfuel' (Nat.not_lt_zero _)
    · have hid : id ∉ met := fun hmem => haside id hmem .refl
      have hid' : id ∉ met' := fun hmem => haside' id hmem .refl
      cases hn : g.findNode? id with
      | none => rw [valueAfter?_of_absent hn, valueAfter?_of_absent hn]
      | some n =>
        cases hpure : n.type.isPure with
        | false => rw [valueAfter?_of_recorded hid hn hpure, valueAfter?_of_recorded hid' hn hpure]
        | true =>
          obtain rfl := Graph.findNode?_id hn
          have hinput : inputAfter e g s fuel met n.id r = inputAfter e g s fuel' met' n.id r := by
            unfold inputAfter
            cases hedge : g.edgeInto? n.id PortId.input with
            | none => rfl
            | some edge =>
              have hfeeds : g.Feeds n.id edge.source := ⟨n, edge, hn, hpure, hedge, rfl⟩
              have hless := Graph.unmet_lt_of_findNode? hn hid
              have hless' := Graph.unmet_lt_of_findNode? hn hid'
              have hrest := ih fuel' (n.id :: met) (n.id :: met') r (by omega) (by omega)
                (h.behind hfeeds) (h.aside hfeeds haside) (h.aside hfeeds haside')
              simp only [hrest]
          rw [valueAfter?_of_pure hid hn hpure, valueAfter?_of_pure hid' hn hpure]
          unfold computeAfter
          rw [hinput]

/-- The input of a node, when the node behind it is read first. -/
def readInput (e : ScriptEngine) (g : Graph) (s : RunState) (id : String) (r : Resolver) :
    Json × Resolver :=
  match g.edgeInto? id PortId.input with
  | some edge => (((value? e g s edge.source r).1).getD .null, (value? e g s edge.source r).2)
  | none => (s.payload, r)

theorem value?_of_absent (hn : g.findNode? id = none) : value? e g s id r = (none, r) :=
  valueAfter?_of_absent hn

theorem value?_of_recorded (hn : g.findNode? id = some n) (hpure : n.type.isPure = false) :
    value? e g s id r = (s.outputs.get? id, r) :=
  valueAfter?_of_recorded List.not_mem_nil hn hpure

/-- **A pure node is read after the node behind it.** -/
theorem value?_of_pure (h : g.Straight n.id) (hn : g.findNode? n.id = some n)
    (hpure : n.type.isPure = true) :
    value? e g s n.id r =
      (((valueFor e s n (readInput e g s n.id r).1 (readInput e g s n.id r).2).1).nonNull?,
        (valueFor e s n (readInput e g s n.id r).1 (readInput e g s n.id r).2).2) := by
  have hinput : inputAfter e g s g.nodes.length [] n.id r = readInput e g s n.id r := by
    unfold inputAfter readInput
    cases hedge : g.edgeInto? n.id PortId.input with
    | none => rfl
    | some edge =>
      have hfeeds : g.Feeds n.id edge.source := ⟨n, edge, hn, hpure, hedge, rfl⟩
      have hnone : ∀ m ∈ ([] : List String), ¬ g.Reads n.id m :=
        fun m hm => absurd hm List.not_mem_nil
      have hless : g.unmet [n.id] < g.unmet [] := Graph.unmet_lt_of_findNode? hn List.not_mem_nil
      have hle := g.unmet_le []
      have hrest := valueAfter?_of_straight (e := e) (s := s) g.nodes.length (g.nodes.length + 1)
        [n.id] [] r (by omega) (by omega) (h.behind hfeeds) (h.aside hfeeds hnone)
        fun m hm => absurd hm List.not_mem_nil
      simp only [hrest, value?]
  unfold value?
  rw [valueAfter?_of_pure List.not_mem_nil hn hpure]
  unfold computeAfter
  rw [hinput]

/-- The value of a pure node for its input, with what was remembered before the input was read. -/
theorem value?_eq_valueFor (h : g.Straight n.id) (hn : g.findNode? n.id = some n)
    (hpure : n.type.isPure = true) :
    (value? e g s n.id r).1 = ((valueFor e s n (readInput e g s n.id r).1 r).1).nonNull? := by
  rw [value?_of_pure h hn hpure]
  dsimp only
  rw [valueFor_congr]
  unfold readInput
  cases hedge : g.edgeInto? n.id PortId.input with
  | none => rfl
  | some edge =>
    have hfeeds : g.Feeds n.id edge.source := ⟨n, edge, hn, hpure, hedge, rfl⟩
    exact get?_of_unread _ _ r (h.not_reads hfeeds)

/-! ## 4. Reads that do not disturb each other -/

/-- Two memories that answer every read along a way without a cycle alike. -/
def AnswersAlike (e : ScriptEngine) (g : Graph) (s : RunState) (r r' : Resolver) : Prop :=
  ∀ id, g.Straight id → (value? e g s id r').1 = (value? e g s id r).1

/-- Nodes have the same input when the nodes behind them have the same value. -/
theorem readInput_congr (hn : g.findNode? n.id = some n) (hpure : n.type.isPure = true)
    (h : ∀ source, g.Feeds n.id source →
      (value? e g s source r').1 = (value? e g s source r).1) :
    (readInput e g s n.id r').1 = (readInput e g s n.id r).1 := by
  unfold readInput
  cases hedge : g.edgeInto? n.id PortId.input with
  | none => rfl
  | some edge => exact congrArg (·.getD Json.null) (h edge.source ⟨n, edge, hn, hpure, hedge, rfl⟩)

/-- Computing and remembering a node's value for its own input changes no answer. -/
theorem valueFor_answersAlike (h : g.Straight n.id) (hn : g.findNode? n.id = some n)
    (hpure : n.type.isPure = true) {input : Json} (hinput : input = (readInput e g s n.id r).1) :
    AnswersAlike e g s r (valueFor e s n input r).2 := by
  intro id hstraight
  -- along the way upstream of the node that is read
  induction hstraight.acc with
  | intro id _ ih =>
    cases hm : g.findNode? id with
    | none => rw [value?_of_absent hm, value?_of_absent hm]
    | some m =>
      cases hmpure : m.type.isPure with
      | false => rw [value?_of_recorded hm hmpure, value?_of_recorded hm hmpure]
      | true =>
        obtain rfl := Graph.findNode?_id hm
        have hbehind : (readInput e g s m.id (valueFor e s n input r).2).1 =
            (readInput e g s m.id r).1 :=
          readInput_congr hm hmpure fun source hfeeds => ih source hfeeds (hstraight.behind hfeeds)
        rw [value?_eq_valueFor hstraight hm hmpure, value?_eq_valueFor hstraight hm hmpure, hbehind]
        by_cases hid : n.id = m.id
        · have hnode : m = n := Option.some.inj (hm.symm.trans (hid ▸ hn))
          subst hnode
          rw [← hinput, (valueFor_of_stored (valueFor_stores e s m input r)).1]
        · rw [valueFor_congr (valueFor_get?_of_ne e s input r hid)]

theorem AnswersAlike.trans {r'' : Resolver} (h : AnswersAlike e g s r r')
    (h' : AnswersAlike e g s r' r'') : AnswersAlike e g s r r'' :=
  fun id hid => (h' id hid).trans (h id hid)

/-- **Reading one node changes no answer**, whatever was remembered before. -/
theorem value?_answersAlike (h : g.Straight id) : AnswersAlike e g s r (value? e g s id r).2 := by
  induction h.acc generalizing r with
  | intro id _ ih =>
    cases hn : g.findNode? id with
    | none =>
      rw [value?_of_absent hn]
      exact fun _ _ => rfl
    | some n =>
      cases hpure : n.type.isPure with
      | false =>
        rw [value?_of_recorded hn hpure]
        exact fun _ _ => rfl
      | true =>
        obtain rfl := Graph.findNode?_id hn
        have hread : AnswersAlike e g s r (readInput e g s n.id r).2 := by
          unfold readInput
          cases hedge : g.edgeInto? n.id PortId.input with
          | none => exact fun _ _ => rfl
          | some edge =>
            have hfeeds : g.Feeds n.id edge.source := ⟨n, edge, hn, hpure, hedge, rfl⟩
            exact ih edge.source hfeeds (h.behind hfeeds)
        rw [value?_of_pure h hn hpure]
        refine hread.trans (valueFor_answersAlike h hn hpure ?_)
        exact (readInput_congr hn hpure fun source hfeeds => hread source (h.behind hfeeds)).symm

end Resolver

end Workgraph
