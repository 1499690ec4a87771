import Workgraph.Proofs.History

/-!
# What is remembered while the dialogue goes on

A remembered value is used again when the node, its input and the generation of the variables are
what they were. The conversation and the context are seen by scripts, but they are no part of this.

* `RunState.OnlyDialogue` says that nothing but the dialogue differs between two states.
* `valueAfter?_again` says that the memory left by a read answers the same read at every such state:
  each node on the way finds the input that it stored its value for.
* `Snapshot` is about a read, more dialogue, and the read again: the answer stays, it is the present
  one where no node on the way depends on the dialogue, and the next write to the variables renews
  it. A node that does depend on the dialogue is answered from before.
-/

namespace Workgraph

/-! ## 1. States between which only the dialogue went on -/

/-- Nothing but the conversation and the context differs. -/
structure RunState.OnlyDialogue (s s' : RunState) : Prop where
  payload : s'.payload = s.payload
  vars : s'.vars = s.vars
  outputs : s'.outputs = s.outputs
  generation : s'.generation = s.generation

theorem RunState.OnlyDialogue.refl (s : RunState) : s.OnlyDialogue s := ⟨rfl, rfl, rfl, rfl⟩

theorem RunState.OnlyDialogue.trans {s t u : RunState} (h : s.OnlyDialogue t)
    (h' : t.OnlyDialogue u) : s.OnlyDialogue u where
  payload := h'.payload.trans h.payload
  vars := h'.vars.trans h.vars
  outputs := h'.outputs.trans h.outputs
  generation := h'.generation.trans h.generation

theorem Operation.write_onlyDialogue {op : Operation} (h : op.isDialogue = true) (s : RunState) :
    s.OnlyDialogue (op.write s) := by
  cases op with
  | pushContext f => exact ⟨rfl, rfl, rfl, rfl⟩
  | converse t => exact ⟨rfl, rfl, rfl, rfl⟩
  | _ => cases h

/-! ## 2. Reading again -/

namespace Resolver

variable {e : ScriptEngine} {g : Graph} {s s' : RunState} {r r' : Resolver}

/-- After a node's value was asked for an input it is stored for this input. -/
theorem valueFor_stores (e : ScriptEngine) (s : RunState) (n : Node) (input : Json) (r : Resolver) :
    (valueFor e s n input r).2.memos.get? n.id =
      some ⟨n.data.body, input, s.generation, (valueFor e s n input r).1⟩ := by
  rcases valueFor_cases e s n input r with ⟨m, hm, hbody, hinput, hgen, heq⟩ | ⟨heq, hmemos⟩
  · rw [heq, ← hbody, ← hinput, ← hgen]
    exact hm
  · rw [hmemos, heq, Keyed.get?_set_self]

/-- Other nodes' memos stay. -/
theorem valueFor_get?_of_ne (e : ScriptEngine) (s : RunState) {n : Node} (input : Json)
    (r : Resolver) {id : String} (h : n.id ≠ id) :
    (valueFor e s n input r).2.memos.get? id = r.memos.get? id := by
  rcases valueFor_cases e s n input r with ⟨m, -, -, -, -, heq⟩ | ⟨-, hmemos⟩
  · rw [heq]
  · rw [hmemos, Keyed.get?_set_of_ne _ _ h]

/-- A value that is stored for the input is given, and nothing is stored. -/
theorem valueFor_of_stored {n : Node} {input v : Json}
    (h : r.memos.get? n.id = some ⟨n.data.body, input, s.generation, v⟩) :
    (valueFor e s n input r).1 = v ∧ (valueFor e s n input r).2.memos = r.memos := by
  have hstored : r.stored? n.id n.data.body input s.generation = some v := by
    simp only [stored?, h, isFit, and_self, decide_true, if_true]
  simp only [valueFor, hstored, and_self]

/-- A read at `s` can be repeated at `s'`: a memory that agrees with the one it left, outside of the
nodes met before, gives the same value and stays as it is. -/
def Repeatable (e : ScriptEngine) (g : Graph) (s s' : RunState) (fuel : Nat) (met : List String)
    (id : String) : Prop :=
  ∀ r r' : Resolver,
    (∀ id', id' ∉ met → r'.memos.get? id' = (valueAfter? e g s fuel met id r).2.memos.get? id') →
    (valueAfter? e g s' fuel met id r').1 = (valueAfter? e g s fuel met id r).1 ∧
      (valueAfter? e g s' fuel met id r').2.memos = r'.memos

/-- The input of a node is read again as the nodes behind it are. -/
theorem inputAfter_again (hd : s.OnlyDialogue s') {fuel : Nat} {met : List String} {id : String}
    (h : ∀ source, Repeatable e g s s' fuel (id :: met) source) (r r' : Resolver)
    (hagree : ∀ id', id' ∉ id :: met →
      r'.memos.get? id' = (inputAfter e g s fuel met id r).2.memos.get? id') :
    (inputAfter e g s' fuel met id r').1 = (inputAfter e g s fuel met id r).1 ∧
      (inputAfter e g s' fuel met id r').2.memos = r'.memos := by
  unfold inputAfter at hagree ⊢
  cases hedge : g.edgeInto? id PortId.input with
  | none => exact ⟨hd.payload, rfl⟩
  | some edge =>
    simp only [hedge] at hagree
    obtain ⟨hvalue, hmemos⟩ := h edge.source r r' hagree
    exact ⟨congrArg (·.getD Json.null) hvalue, hmemos⟩

/-- **A read leaves what it needs**, although the dialogue may go on. -/
theorem valueAfter?_again (hd : s.OnlyDialogue s') : ∀ (fuel : Nat) (met : List String)
    (id : String), Repeatable e g s s' fuel met id := by
  intro fuel
  induction fuel with
  | zero => exact fun _ _ _ _ _ => ⟨rfl, rfl⟩
  | succ fuel ih =>
    intro met id r r' hagree
    by_cases hid : id ∈ met
    · rw [valueAfter?_of_mem hid, valueAfter?_of_mem hid]
      exact ⟨rfl, rfl⟩
    · cases hn : g.findNode? id with
      | none =>
        rw [valueAfter?_of_absent hn, valueAfter?_of_absent hn]
        exact ⟨rfl, rfl⟩
      | some n =>
        cases hpure : n.type.isPure with
        | false =>
          rw [valueAfter?_of_recorded hid hn hpure, valueAfter?_of_recorded hid hn hpure]
          exact ⟨congrArg (Keyed.get? · id) hd.outputs, rfl⟩
        | true =>
          obtain rfl := Graph.findNode?_id hn
          rw [valueAfter?_of_pure hid hn hpure] at hagree
          rw [valueAfter?_of_pure hid hn hpure, valueAfter?_of_pure hid hn hpure]
          -- behind the node its own memo does not count
          have hbehind : ∀ id', id' ∉ n.id :: met →
              r'.memos.get? id' = (inputAfter e g s fuel met n.id r).2.memos.get? id' := by
            intro id' hid'
            rw [List.mem_cons, not_or] at hid'
            rw [hagree id' hid'.2]
            exact valueFor_get?_of_ne _ _ _ _ (Ne.symm hid'.1)
          obtain ⟨hinput, hmemos⟩ := inputAfter_again hd (ih (n.id :: met)) r r' hbehind
          have hstored : (inputAfter e g s' fuel met n.id r').2.memos.get? n.id =
              some ⟨n.data.body, (inputAfter e g s' fuel met n.id r').1, s'.generation,
                (computeAfter e g s fuel met n r).1⟩ := by
            rw [hinput, hmemos, hd.generation, hagree n.id hid]
            exact valueFor_stores _ _ _ _ _
          obtain ⟨hvalue, hkept⟩ := valueFor_of_stored (e := e) hstored
          exact ⟨congrArg Json.nonNull? hvalue, hkept.trans hmemos⟩

theorem value?_again (hd : s.OnlyDialogue s') (id : String) (r : Resolver) :
    (value? e g s' id (value? e g s id r).2).1 = (value? e g s id r).1 :=
  (valueAfter?_again hd _ _ _ _ _ fun _ _ => rfl).1

end Resolver

/-! ## 3. A read, more dialogue, and the read again -/

/-- The state and the resolver after a sequence of operations. -/
def afterAll (e : ScriptEngine) (g : Graph) (ops : List Operation) (p : RunState × Resolver) :
    RunState × Resolver :=
  ops.foldl (fun p op => (op.write p.1, (op.ask e g p.1 p.2).2)) p

/-- A memory that was built up by operations is sound, whatever dialogue was seen. -/
theorem afterAll_sound (e : ScriptEngine) (g : Graph) (ops : List Operation)
    (p : RunState × Resolver) (h : p.2.Sound e (fun _ => True) p.1) :
    (afterAll e g ops p).2.Sound e (fun _ => True) (afterAll e g ops p).1 := by
  induction ops generalizing p with
  | nil => exact h
  | cons op ops ih => exact ih _ (op.ask_sound h trivial)

/-- Dialogue leaves the resolver alone. -/
theorem afterAll_dialogue (e : ScriptEngine) (g : Graph) (ops : List Operation)
    (p : RunState × Resolver) (h : ∀ op ∈ ops, op.isDialogue = true) :
    p.1.OnlyDialogue (afterAll e g ops p).1 ∧ (afterAll e g ops p).2 = p.2 := by
  induction ops generalizing p with
  | nil => exact ⟨.refl _, rfl⟩
  | cons op ops ih =>
    have hop := h op List.mem_cons_self
    have hrest := ih (op.write p.1, (op.ask e g p.1 p.2).2)
      fun op' h' => h op' (List.mem_cons_of_mem _ h')
    refine ⟨(Operation.write_onlyDialogue hop p.1).trans hrest.1, hrest.2.trans ?_⟩
    cases op with
    | pushContext f => rfl
    | converse t => rfl
    | _ => cases hop

/-- Whether a node gives the same for the same variables in every dialogue. -/
def NodeBody.IgnoresDialogue (e : ScriptEngine) (b : NodeBody) : Prop :=
  ∀ s, b.Steady e (fun _ => True) s

/-- **A node's value as a snapshot**, taken at a state `p.1` by a resolver `p.2` and read again at
`q.1`, where the resolver is `q.2`. -/
structure Snapshot (e : ScriptEngine) (g : Graph) (id : String) (p q : RunState × Resolver) :
    Prop where
  /-- Reading again gives what was read. -/
  stays : (Resolver.value? e g q.1 id q.2).1 = (Resolver.value? e g p.1 id p.2).1
  /-- Where no node on the way depends on the dialogue, this is the present value. -/
  present : (∀ id' n, g.Reads id id' → g.findNode? id' = some n → n.data.body.IgnoresDialogue e) →
    (Resolver.value? e g q.1 id q.2).1 = (Resolver.value? e g q.1 id {}).1
  /-- Forgetting, and any write to the variables, renews it. -/
  renewed : ∀ op : Operation, op = .forget ∨ q.1.generation < (op.write q.1).generation →
    (Resolver.value? e g (op.write q.1) id (op.ask e g q.1 q.2).2).1 =
      (Resolver.value? e g (op.write q.1) id {}).1

/-- What renews a value leaves the resolver with nothing that counts at the new state. -/
theorem Operation.value?_of_renewal {e : ScriptEngine} {g : Graph} {s : RunState} {r : Resolver}
    (h : r.Sound e (fun _ => True) s) {op : Operation}
    (hop : op = .forget ∨ s.generation < (op.write s).generation) (id : String) :
    (Resolver.value? e g (op.write s) id (op.ask e g s r).2).1 =
      (Resolver.value? e g (op.write s) id {}).1 := by
  have hnew : (op.ask e g s r).2.Sound e (· = op.write s) (op.write s) := by
    rcases hop with rfl | hgen
    · exact .of_empty rfl
    · cases op with
      | setVar path v => exact h.of_newer hgen
      | replaceVars v => exact h.of_newer hgen
      | _ => exact absurd hgen (Nat.lt_irrefl _)
  rw [Resolver.value?_of_empty (r := {}) rfl]
  exact hnew.value?_eq_of_dialogue rfl (fun t ht => ht ▸ ⟨rfl, rfl⟩) id

theorem resolve_snapshot (e : ScriptEngine) (g : Graph) (s : RunState)
    (before dialogue : List Operation) (id : String) (h : ∀ op ∈ dialogue, op.isDialogue = true) :
    Snapshot e g id (afterAll e g before (s, {}))
      (afterAll e g (before ++ .resolve id :: dialogue) (s, {})) := by
  have hsound := afterAll_sound e g (before ++ .resolve id :: dialogue) (s, {}) (.of_empty rfl)
  constructor
  · obtain ⟨p, hp⟩ : ∃ p, p = afterAll e g before (s, {}) := ⟨_, rfl⟩
    have hsplit : afterAll e g (before ++ .resolve id :: dialogue) (s, {}) =
        afterAll e g dialogue (p.1, (Resolver.value? e g p.1 id p.2).2) := by
      rw [hp]
      exact List.foldl_append
    obtain ⟨hstate, hresolver⟩ :=
      afterAll_dialogue e g dialogue (p.1, (Resolver.value? e g p.1 id p.2).2) h
    rw [hsplit, hresolver, ← hp]
    exact Resolver.value?_again hstate id p.2
  · intro hignores
    rw [Resolver.value?_of_empty (r := {}) rfl]
    exact hsound.value?_eq trivial fun id' n hreads hn => hignores id' n hreads hn _
  · exact fun op hop => Operation.value?_of_renewal hsound hop id

/-- An engine whose scripts all give the context messages. -/
def listener : ScriptEngine where
  expression _ view := { value := view.contextMessages }
  body _ view _ := { value := view.contextMessages }

/-- A graph of one unwired transform. -/
def overhearing : Graph := { nodes := [⟨"t", .transform, .initial .transform⟩] }

/-- A context message after the first read is not seen by the second. -/
theorem stale_listener :
    let read := Operation.resolve "t"
    let news := Operation.pushContext { role := .system, text := "news", priority := 0 }
    answers listener overhearing [read, news, read] {} {} = [some (.array []), some (.array [])] ∧
      freshAnswers listener overhearing [read, news, read] {} =
        [some (.array []), some (.array [({ role := .system, text := "news", priority := 0 } :
          Fragment).encode])] := by
  decide +kernel

theorem overhearing_snapshot :
    (∀ op ∈ [Operation.pushContext { role := .system, text := "news", priority := 0 }],
      op.isDialogue = true) ∧
    Snapshot listener overhearing "t" (afterAll listener overhearing [] ({}, {}))
      (afterAll listener overhearing
        [.resolve "t", .pushContext { role := .system, text := "news", priority := 0 }] ({}, {})) :=
  ⟨by decide, resolve_snapshot listener overhearing {} []
    [.pushContext { role := .system, text := "news", priority := 0 }] "t" (by decide)⟩

end Workgraph
