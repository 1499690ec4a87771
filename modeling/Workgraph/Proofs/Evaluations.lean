import Workgraph.Proofs.Snapshot

/-!
# What a read evaluates

A read follows the wiring upstream, whatever it is: it may come back to a node, or lead from a node
to itself. What it evaluates on the way it remembers.

* `Resolver.Evaluates` says what a resolver is after a list of evaluations: it remembers each, has
  counted and logged each, and had nothing stored for any of them.
* `exists_evaluates` finds this list for a read. No node occurs in it twice, for a node that was met
  is not read again.
* `valueAfter?_fuel` says that a read ends within the nodes that were not met: with more fuel it
  does the same.
* `value?_evaluatesOnce` puts this together. When the same node is read again, its own memos are
  there, so that the list of evaluations is empty.
-/

namespace Workgraph

/-! ## 1. Evaluations -/

/-- A node that is evaluated, and the input that it is evaluated with. -/
structure Evaluation where
  node : Node
  input : Json

namespace Evaluation

variable (e : ScriptEngine) (s : RunState) (v : Evaluation)

/-- The value that an evaluation at a state gives. -/
def value : Json := (v.node.data.body.evaluate e s v.input).1

/-- The lines that a script logs during an evaluation. -/
def logs : List String := (v.node.data.body.evaluate e s v.input).2

/-- What is remembered of an evaluation. -/
def memo : Memo :=
  { body := v.node.data.body, input := v.input, generation := s.generation, value := v.value e s }

end Evaluation

/-- Memos, after evaluations were remembered one after the other. -/
def Keyed.remember (e : ScriptEngine) (s : RunState) (memos : Keyed Memo) (vs : List Evaluation) :
    Keyed Memo :=
  vs.foldl (fun memos v => memos.set v.node.id (v.memo e s)) memos

/-- The nodes evaluated are pure nodes of the graph that were not met before, none of them twice. -/
structure Graph.EvaluatesEach (g : Graph) (met : List String) (vs : List Evaluation) : Prop where
  distinct : (vs.map (·.node.id)).Nodup
  fresh : ∀ v ∈ vs, v.node.id ∉ met
  found : ∀ v ∈ vs, g.findNode? v.node.id = some v.node ∧ v.node.type.isPure = true

/-- **Evaluations by a resolver** at a state, which make the resolver `r` into `r'`. -/
structure Resolver.Evaluates (e : ScriptEngine) (s : RunState) (r : Resolver)
    (vs : List Evaluation) (r' : Resolver) : Prop where
  /-- Each is remembered, and nothing else is. -/
  memos : r'.memos = r.memos.remember e s vs
  /-- Each counts as a miss. -/
  misses : r'.misses = r.misses + vs.length
  /-- The lines that they log come after those that were there. -/
  logs : r'.logs = r.logs ++ vs.flatMap (·.logs e s)
  /-- There was nothing stored that would have spared one of them. -/
  missing : ∀ v ∈ vs, r.stored? v.node.id v.node.data.body v.input s.generation = none

section

variable {e : ScriptEngine} {g : Graph} {s : RunState} {vs vs' : List Evaluation}
  {memos : Keyed Memo} {met : List String} {id : String}

theorem Keyed.remember_append :
    memos.remember e s (vs ++ vs') = (memos.remember e s vs).remember e s vs' :=
  List.foldl_append

/-- Memos of nodes that are not evaluated stay. -/
theorem Keyed.get?_remember_of_notMem (hid : ∀ v ∈ vs, v.node.id ≠ id) :
    (memos.remember e s vs).get? id = memos.get? id := by
  induction vs generalizing memos with
  | nil => rfl
  | cons v vs ih =>
    have hrest : ((memos.set v.node.id (v.memo e s)).remember e s vs).get? id =
        (memos.set v.node.id (v.memo e s)).get? id :=
      ih fun v' hv' => hid v' (List.mem_cons_of_mem _ hv')
    exact hrest.trans (Keyed.get?_set_of_ne _ _ (hid v List.mem_cons_self))

/-- Of nodes evaluated once, what is remembered is what they were evaluated to. -/
theorem Keyed.get?_remember_of_mem (hdistinct : (vs.map (·.node.id)).Nodup) {v : Evaluation}
    (hv : v ∈ vs) : (memos.remember e s vs).get? v.node.id = some (v.memo e s) := by
  induction vs generalizing memos with
  | nil => cases hv
  | cons v' vs ih =>
    rw [List.map_cons, List.nodup_cons] at hdistinct
    rcases List.mem_cons.mp hv with rfl | hv
    · have hlater : ∀ v' ∈ vs, v'.node.id ≠ v.node.id := fun v' hv' heq =>
        hdistinct.1 (heq ▸ List.mem_map_of_mem hv')
      exact (Keyed.get?_remember_of_notMem hlater).trans (Keyed.get?_set_self _ _ _)
    · exact ih hdistinct.2 hv

theorem Graph.EvaluatesEach.nil : g.EvaluatesEach met [] where
  distinct := List.nodup_nil
  fresh _ hv := nomatch hv
  found _ hv := nomatch hv

/-- After the nodes evaluated behind a node, the node itself. -/
theorem Graph.EvaluatesEach.concat {n : Node} (h : g.EvaluatesEach (n.id :: met) vs)
    (hid : n.id ∉ met) (hn : g.findNode? n.id = some n) (hpure : n.type.isPure = true)
    (input : Json) : g.EvaluatesEach met (vs ++ [⟨n, input⟩]) where
  distinct := by
    rw [List.map_append, List.nodup_append]
    refine ⟨h.distinct, List.nodup_singleton _, ?_⟩
    intro id hbehind id' hid' heq
    obtain ⟨v, hv, rfl⟩ := List.mem_map.mp hbehind
    obtain rfl := List.mem_singleton.mp hid'
    exact h.fresh v hv (heq ▸ List.mem_cons_self)
  fresh := by
    intro v hv
    rcases List.mem_append.mp hv with hv | hv
    · exact fun hmem => h.fresh v hv (List.mem_cons_of_mem _ hmem)
    · obtain rfl := List.mem_singleton.mp hv
      exact hid
  found := by
    intro v hv
    rcases List.mem_append.mp hv with hv | hv
    · exact h.found v hv
    · obtain rfl := List.mem_singleton.mp hv
      exact ⟨hn, hpure⟩

theorem Graph.EvaluatesEach.of_cons (h : g.EvaluatesEach (id :: met) vs) :
    g.EvaluatesEach met vs :=
  ⟨h.distinct, fun v hv hmem => h.fresh v hv (List.mem_cons_of_mem _ hmem), h.found⟩

/-- What is evaluated once are at most the nodes of the graph. -/
theorem Graph.EvaluatesEach.length_le (h : g.EvaluatesEach met vs) :
    vs.length ≤ g.nodes.length := by
  have := Graph.length_le_of_nodup (g := g) h.distinct fun id hid => by
    obtain ⟨v, hv, rfl⟩ := List.mem_map.mp hid
    exact ⟨v.node, Graph.mem_of_findNode? (h.found v hv).1, rfl⟩
  rwa [List.length_map] at this

end

/-! ## 2. The evaluations of a read -/

namespace Resolver

variable {e : ScriptEngine} {g : Graph} {s : RunState} {r r' r'' : Resolver}
  {vs : List Evaluation} {fuel : Nat} {met : List String} {n : Node} {input : Json}

/-- What is stored for a node depends on its own memo only. -/
theorem stored?_congr {id : String} (h : r.memos.get? id = r'.memos.get? id) (body : NodeBody)
    (generation : Nat) :
    r.stored? id body input generation = r'.stored? id body input generation := by
  unfold stored?
  rw [h]

theorem stored?_memo {v : Evaluation} (h : r.memos.get? v.node.id = some (v.memo e s)) :
    r.stored? v.node.id v.node.data.body v.input s.generation = some (v.value e s) := by
  simp only [stored?, h, isFit, Evaluation.memo, and_self, decide_true, if_true]

namespace Evaluates

theorem refl (r : Resolver) : r.Evaluates e s [] r where
  memos := rfl
  misses := rfl
  logs := (List.append_nil _).symm
  missing _ hv := nomatch hv

/-- How often stored values were used does not count. -/
theorem of_hits (h : r.Evaluates e s vs r') (k : Nat) : r.Evaluates e s vs { r' with hits := k } :=
  ⟨h.memos, h.misses, h.logs, h.missing⟩

/-- One more evaluation, of a node that is not among those before. -/
theorem concat (h : r.Evaluates e s vs r') {v : Evaluation}
    (hmissing : r'.stored? v.node.id v.node.data.body v.input s.generation = none)
    (hnew : ∀ v' ∈ vs, v'.node.id ≠ v.node.id) :
    r.Evaluates e s (vs ++ [v])
      { memos := r'.memos.set v.node.id (v.memo e s), hits := r'.hits, misses := r'.misses + 1
        logs := r'.logs ++ v.logs e s } where
  memos := by
    rw [Keyed.remember_append, ← h.memos]
    rfl
  misses := by
    rw [h.misses, List.length_append, ← Nat.add_assoc]
    rfl
  logs := by
    rw [h.logs, List.append_assoc, List.flatMap_append, List.flatMap_singleton]
  missing := by
    intro v' hv'
    rcases List.mem_append.mp hv' with hv' | hv'
    · exact h.missing v' hv'
    · obtain rfl := List.mem_singleton.mp hv'
      rw [← hmissing, stored?_congr]
      rw [h.memos, Keyed.get?_remember_of_notMem hnew]

/-- Where nothing was evaluated, stored values were used at most. -/
theorem eq_of_nil (h : r.Evaluates e s [] r') : r' = { r with hits := r'.hits } := by
  have hmemos : r'.memos = r.memos := h.memos
  have hmisses : r'.misses = r.misses := h.misses
  have hlogs : r'.logs = r.logs := h.logs.trans (List.append_nil _)
  rw [← hmemos, ← hmisses, ← hlogs]

/-- If all that is remembered was so before, nothing was evaluated. -/
theorem eq_nil (h : r.Evaluates e s vs r') (hdistinct : (vs.map (·.node.id)).Nodup)
    (hmemos : r'.memos = r.memos) : vs = [] := by
  rw [List.eq_nil_iff_forall_not_mem]
  intro v hv
  have hmemo : r.memos.get? v.node.id = some (v.memo e s) := by
    rw [← hmemos, h.memos]
    exact Keyed.get?_remember_of_mem hdistinct hv
  have := h.missing v hv
  rw [stored?_memo hmemo] at this
  cases this

end Evaluates

/-- To give the value of a node, it is evaluated unless a value is stored. -/
theorem valueFor_evaluates (h : r.Evaluates e s vs r') (hnew : ∀ v ∈ vs, v.node.id ≠ n.id) :
    r.Evaluates e s vs (valueFor e s n input r').2 ∨
      r.Evaluates e s (vs ++ [⟨n, input⟩]) (valueFor e s n input r').2 := by
  unfold valueFor
  cases hstored : r'.stored? n.id n.data.body input s.generation with
  | some v => exact Or.inl (h.of_hits _)
  | none => exact Or.inr (h.concat (v := ⟨n, input⟩) hstored hnew)

/-- **A read evaluates no node twice**, and none that was met before. -/
theorem exists_evaluates : ∀ (fuel : Nat) (met : List String) (id : String) (r : Resolver),
    ∃ vs, g.EvaluatesEach met vs ∧ r.Evaluates e s vs (valueAfter? e g s fuel met id r).2 := by
  intro fuel
  induction fuel with
  | zero => exact fun _ _ r => ⟨[], .nil, .refl r⟩
  | succ fuel ih =>
    intro met id r
    by_cases hid : id ∈ met
    · rw [valueAfter?_of_mem hid]
      exact ⟨[], .nil, .refl r⟩
    · cases hn : g.findNode? id with
      | none =>
        rw [valueAfter?_of_absent hn]
        exact ⟨[], .nil, .refl r⟩
      | some n =>
        cases hpure : n.type.isPure with
        | false =>
          rw [valueAfter?_of_recorded hid hn hpure]
          exact ⟨[], .nil, .refl r⟩
        | true =>
          obtain rfl := Graph.findNode?_id hn
          rw [valueAfter?_of_pure hid hn hpure]
          -- behind the node it counts as met, so that it is not among those evaluated there
          obtain ⟨vs, heach, hvs⟩ : ∃ vs, g.EvaluatesEach (n.id :: met) vs ∧
              r.Evaluates e s vs (inputAfter e g s fuel met n.id r).2 := by
            unfold inputAfter
            cases g.edgeInto? n.id PortId.input with
            | none => exact ⟨[], .nil, .refl r⟩
            | some edge => exact ih (n.id :: met) edge.source r
          have hother : ∀ v ∈ vs, v.node.id ≠ n.id := fun v hv heq =>
            heach.fresh v hv (heq ▸ List.mem_cons_self)
          unfold computeAfter
          rcases valueFor_evaluates hvs hother with hvs | hvs
          · exact ⟨vs, heach.of_cons, hvs⟩
          · exact ⟨_, heach.concat hid hn hpure _, hvs⟩

/-! ## 3. How far a read goes -/

/-- **A read ends**: fuel beyond the nodes that were not met is not used. -/
theorem valueAfter?_fuel (extra : Nat) : ∀ (fuel : Nat) (met : List String) (id : String)
    (r : Resolver), g.unmet met < fuel →
    valueAfter? e g s (fuel + extra) met id r = valueAfter? e g s fuel met id r := by
  intro fuel
  induction fuel with
  | zero => exact fun _ _ _ hfuel => absurd hfuel (Nat.not_lt_zero _)
  | succ fuel ih =>
    intro met id r hfuel
    rw [Nat.add_right_comm]
    by_cases hid : id ∈ met
    · rw [valueAfter?_of_mem hid, valueAfter?_of_mem hid]
    · cases hn : g.findNode? id with
      | none => rw [valueAfter?_of_absent hn, valueAfter?_of_absent hn]
      | some n =>
        cases hpure : n.type.isPure with
        | false => rw [valueAfter?_of_recorded hid hn hpure, valueAfter?_of_recorded hid hn hpure]
        | true =>
          obtain rfl := Graph.findNode?_id hn
          have hless := Graph.unmet_lt_of_findNode? hn hid
          have hinput : inputAfter e g s (fuel + extra) met n.id r =
              inputAfter e g s fuel met n.id r := by
            unfold inputAfter
            cases g.edgeInto? n.id PortId.input with
            | none => rfl
            | some edge => simp only [ih (n.id :: met) edge.source r (by omega)]
          rw [valueAfter?_of_pure hid hn hpure, valueAfter?_of_pure hid hn hpure]
          unfold computeAfter
          rw [hinput]

/-- **A read and its repetition** at a state, of any node of any graph. -/
structure EvaluatesOnce (e : ScriptEngine) (g : Graph) (s : RunState) (id : String)
    (r : Resolver) : Prop where
  /-- The read ends: it is the same read with as much more fuel as one likes. -/
  ends : ∀ extra, valueAfter? e g s (g.nodes.length + 1 + extra) [] id r = value? e g s id r
  /-- What it evaluates are pure nodes of the graph, each of them once. -/
  once : ∃ vs, g.EvaluatesEach [] vs ∧ vs.length ≤ g.nodes.length ∧
    r.Evaluates e s vs (value? e g s id r).2
  /-- While what it remembered is there, the value is given again and the resolver stays as it is:
  nothing is evaluated or logged, only the uses of stored values are counted. -/
  again : ∀ r' : Resolver, r'.memos = (value? e g s id r).2.memos →
    ∃ hits, value? e g s id r' = ((value? e g s id r).1, { r' with hits })

theorem value?_evaluatesOnce (e : ScriptEngine) (g : Graph) (s : RunState) (id : String)
    (r : Resolver) : EvaluatesOnce e g s id r where
  ends extra := valueAfter?_fuel extra _ _ _ _ (Nat.lt_succ_of_le (g.unmet_le []))
  once := by
    obtain ⟨vs, heach, hvs⟩ := exists_evaluates (e := e) (g := g) (s := s) (g.nodes.length + 1) []
      id r
    exact ⟨vs, heach, heach.length_le, hvs⟩
  again := by
    intro r' hmemos
    obtain ⟨hvalue, hkept⟩ := valueAfter?_again (e := e) (g := g) (.refl s) (g.nodes.length + 1) []
      id r r' fun id' _ => congrArg (Keyed.get? · id') hmemos
    obtain ⟨vs, heach, hvs⟩ := exists_evaluates (e := e) (g := g) (s := s) (g.nodes.length + 1) []
      id r'
    obtain rfl := hvs.eq_nil heach.distinct hkept
    exact ⟨_, Prod.ext hvalue hvs.eq_of_nil⟩

end Resolver

end Workgraph
