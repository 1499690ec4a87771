import Mathlib.Logic.Relation
import Workgraph.Dataflow
import Workgraph.Proofs.Lookup

/-!
# Remembered values are values computed anew

A resolver remembers what it computed. This file compares it with one that remembers nothing.

* `Graph.provides?` is the value that a node provides at a state. It is computed without a memory
  and without a bound on the way: the nodes that were not met yet grow fewer with every step.
* `Resolver.Sound` is what holds of a memory at any time: nothing in it is younger than the state,
  and what has the state's generation was computed from the state's variables. With which
  conversation and which context it was computed is left open (`seen`).
* `Sound.value?_eq` says that a sound resolver gives the value that the node provides, if no node on
  the way depends on which of the dialogues that were seen it gets (`NodeBody.Steady`). After one
  dialogue only this is always so (`Sound.value?_eq_of_dialogue`).
-/

namespace Workgraph

/-! ## 1. The value of a node, computed anew -/

namespace Graph

/-- The value that a node provides at a state, where `met` are the nodes on the way to it. -/
def provides? (e : ScriptEngine) (g : Graph) (s : RunState) (met : List String) (id : String) :
    Option Json :=
  if _ : id ∈ met then none
  else match _ : g.findNode? id with
    | none => none
    | some n =>
      if n.type.isPure then
        let input := match g.edgeInto? id PortId.input with
          | some edge => (provides? e g s (id :: met) edge.source).getD .null
          | none => s.payload
        (n.data.body.evaluate e s input).1.nonNull?
      else s.outputs.get? id
termination_by g.unmet met
decreasing_by exact unmet_lt_of_findNode? ‹_› ‹_›

/-- The value that flows into a node at a state. -/
def inputOf (e : ScriptEngine) (g : Graph) (s : RunState) (met : List String) (id : String) :
    Json :=
  match g.edgeInto? id PortId.input with
  | some edge => (g.provides? e s (id :: met) edge.source).getD .null
  | none => s.payload

section

variable {e : ScriptEngine} {g : Graph} {s : RunState} {met : List String} {id : String} {n : Node}

theorem provides?_of_mem (hid : id ∈ met) : g.provides? e s met id = none := by
  rw [provides?, dif_pos hid]

theorem provides?_of_absent (hn : g.findNode? id = none) : g.provides? e s met id = none := by
  rw [provides?]
  split
  · rfl
  · split
    · rfl
    · next m hm => rw [hn] at hm; cases hm

theorem provides?_of_found (hid : id ∉ met) (hn : g.findNode? id = some n) :
    g.provides? e s met id = if n.type.isPure
      then (n.data.body.evaluate e s (g.inputOf e s met id)).1.nonNull?
      else s.outputs.get? id := by
  rw [provides?, dif_neg hid]
  split
  · next hm => rw [hn] at hm; cases hm
  · next m hm =>
    rw [hn] at hm
    cases hm
    rfl

end

/-- A pure node reads the node behind the edge into its input. -/
def Feeds (g : Graph) (id source : String) : Prop :=
  ∃ n edge, g.findNode? id = some n ∧ n.type.isPure = true ∧
    g.edgeInto? id PortId.input = some edge ∧ edge.source = source

/-- The nodes that the value of a node is computed from, itself included. -/
def Reads (g : Graph) : String → String → Prop := Relation.ReflTransGen g.Feeds

end Graph

/-! ## 2. What a resolver remembers -/

/-- **A sound memory.** No remembered value is younger than the state. One of the state's generation
was computed from the variables of the state, at some state that was seen. -/
structure Resolver.Sound (e : ScriptEngine) (seen : RunState → Prop) (s : RunState) (r : Resolver) :
    Prop where
  older : ∀ {id m}, r.memos.get? id = some m → m.generation ≤ s.generation
  computed : ∀ {id m}, r.memos.get? id = some m → m.generation = s.generation →
    ∃ t, seen t ∧ t.vars = s.vars ∧ (m.body.evaluate e t m.input).1 = m.value

/-- Whether a node gives the same at every state that was seen with the same variables. -/
def NodeBody.Steady (e : ScriptEngine) (seen : RunState → Prop) (s : RunState) (b : NodeBody) :
    Prop :=
  ∀ t, seen t → t.vars = s.vars → ∀ input, (b.evaluate e t input).1 = (b.evaluate e s input).1

/-- A node's value depends on the state through its variables and its dialogue. -/
theorem NodeBody.evaluate_congr (e : ScriptEngine) {s t : RunState} (hvars : t.vars = s.vars)
    (hconversation : t.conversation = s.conversation) (hcontext : t.context = s.context)
    (input : Json) (b : NodeBody) : b.evaluate e t input = b.evaluate e s input := by
  cases b with
  | getVariable b =>
    simp only [NodeBody.evaluate, GetVariableBody.valueAt, RunState.getVar?, hvars]
  | transform b =>
    simp only [NodeBody.evaluate, ScriptView.ofState, hvars, hconversation, hcontext]
  | _ => rfl

namespace Resolver

variable {e : ScriptEngine} {g : Graph} {seen : RunState → Prop} {s s' : RunState} {r r' : Resolver}

namespace Sound

theorem of_empty (h : r.memos = []) : r.Sound e seen s where
  older := by
    intro id m hm
    rw [h] at hm
    cases hm
  computed := by
    intro id m hm
    rw [h] at hm
    cases hm

/-- Only the memos count. -/
theorem of_memos_eq (h : r.Sound e seen s) (hr : r'.memos = r.memos) : r'.Sound e seen s where
  older := by
    rw [hr]
    exact h.older
  computed := by
    rw [hr]
    exact h.computed

/-- Writes to other parts than the variables do not concern the memory. -/
theorem of_sameVars (h : r.Sound e seen s) (hvars : s'.vars = s.vars)
    (hgen : s'.generation = s.generation) : r.Sound e seen s' where
  older := by
    rw [hgen]
    exact h.older
  computed := by
    rw [hgen, hvars]
    exact h.computed

/-- After a write to the variables everything remembered is too old, whatever was seen. -/
theorem of_newer {seen' : RunState → Prop} (h : r.Sound e seen s)
    (hgen : s.generation < s'.generation) : r.Sound e seen' s' where
  older hm := Nat.le_of_lt (Nat.lt_of_le_of_lt (h.older hm) hgen)
  computed := by
    intro id m hm heq
    have := h.older hm
    omega

end Sound

/-! ## 3. Reading -/

/-- What a resolver gives for an input: what it stored and counts as a hit, or the node's value,
which is stored. -/
theorem valueFor_cases (e : ScriptEngine) (s : RunState) (n : Node) (input : Json) (r : Resolver) :
    (∃ m, r.memos.get? n.id = some m ∧ m.body = n.data.body ∧ m.input = input ∧
      m.generation = s.generation ∧
      valueFor e s n input r = (m.value, { r with hits := r.hits + 1 })) ∨
    ((valueFor e s n input r).1 = (n.data.body.evaluate e s input).1 ∧
      (valueFor e s n input r).2.memos =
        r.memos.set n.id { body := n.data.body, input, generation := s.generation
                           value := (n.data.body.evaluate e s input).1 }) := by
  unfold valueFor stored?
  cases hm : r.memos.get? n.id with
  | none => exact Or.inr ⟨rfl, rfl⟩
  | some m =>
    by_cases hfit : m.body = n.data.body ∧ m.input = input ∧ m.generation = s.generation
    · refine Or.inl ⟨m, rfl, hfit.1, hfit.2.1, hfit.2.2, ?_⟩
      simp only [isFit, hfit, and_self, decide_true, if_true]
    · refine Or.inr ?_
      simp only [isFit, hfit, decide_false, Bool.false_eq_true, if_false, and_self]

/-- The input of a node, as a resolver reads it. -/
def inputAfter (e : ScriptEngine) (g : Graph) (s : RunState) (fuel : Nat) (met : List String)
    (id : String) (r : Resolver) : Json × Resolver :=
  match g.edgeInto? id PortId.input with
  | some edge =>
    (((valueAfter? e g s fuel (id :: met) edge.source r).1).getD .null,
      (valueAfter? e g s fuel (id :: met) edge.source r).2)
  | none => (s.payload, r)

/-- The value of a pure node for the input that a resolver reads. -/
def computeAfter (e : ScriptEngine) (g : Graph) (s : RunState) (fuel : Nat) (met : List String)
    (n : Node) (r : Resolver) : Json × Resolver :=
  valueFor e s n (inputAfter e g s fuel met n.id r).1 (inputAfter e g s fuel met n.id r).2

section

variable {fuel : Nat} {met : List String} {id : String} {n : Node}

theorem valueAfter?_of_mem (hid : id ∈ met) :
    valueAfter? e g s fuel met id r = (none, r) := by
  cases fuel with
  | zero => rfl
  | succ fuel =>
    simp only [valueAfter?, hid, if_true]
    rfl

theorem valueAfter?_of_absent (hn : g.findNode? id = none) :
    valueAfter? e g s fuel met id r = (none, r) := by
  cases fuel with
  | zero => rfl
  | succ fuel =>
    simp only [valueAfter?, hn, ite_self]
    rfl

theorem valueAfter?_of_recorded (hid : id ∉ met) (hn : g.findNode? id = some n)
    (hpure : n.type.isPure = false) :
    valueAfter? e g s (fuel + 1) met id r = (s.outputs.get? id, r) := by
  simp only [valueAfter?, hid, hn, hpure]
  rfl

theorem valueAfter?_of_pure (hid : n.id ∉ met) (hn : g.findNode? n.id = some n)
    (hpure : n.type.isPure = true) :
    valueAfter? e g s (fuel + 1) met n.id r =
      ((computeAfter e g s fuel met n r).1.nonNull?, (computeAfter e g s fuel met n r).2) := by
  unfold computeAfter inputAfter
  simp only [valueAfter?, hid, hn, hpure, if_true, if_false]
  cases g.edgeInto? n.id PortId.input with
  | none => rfl
  | some edge => rfl

end

namespace Sound

/-- Computing a value at a state that counts as seen keeps a memory sound. -/
theorem valueFor (h : r.Sound e seen s) (hs : seen s) (n : Node) (input : Json) :
    (valueFor e s n input r).2.Sound e seen s := by
  rcases valueFor_cases e s n input r with ⟨m, -, -, -, -, heq⟩ | ⟨-, hmemos⟩
  · rw [heq]
    exact h.of_memos_eq rfl
  · constructor
    · intro id m hm
      rw [hmemos, Keyed.get?_set] at hm
      split at hm
      · cases hm
        exact Nat.le_refl _
      · exact h.older hm
    · intro id m hm hgen
      rw [hmemos, Keyed.get?_set] at hm
      split at hm
      · cases hm
        exact ⟨s, hs, rfl, rfl⟩
      · exact h.computed hm hgen

theorem valueAfter? (hs : seen s) : ∀ (fuel : Nat) (met : List String) (id : String) {r : Resolver},
    r.Sound e seen s → (Resolver.valueAfter? e g s fuel met id r).2.Sound e seen s := by
  intro fuel
  induction fuel with
  | zero => exact fun _ _ _ h => h
  | succ fuel ih =>
    intro met id r h
    by_cases hid : id ∈ met
    · rwa [valueAfter?_of_mem hid]
    · cases hn : g.findNode? id with
      | none => rwa [valueAfter?_of_absent hn]
      | some n =>
        cases hpure : n.type.isPure with
        | false => rwa [valueAfter?_of_recorded hid hn hpure]
        | true =>
          obtain rfl := Graph.findNode?_id hn
          rw [valueAfter?_of_pure hid hn hpure]
          have hinput : (inputAfter e g s fuel met n.id r).2.Sound e seen s := by
            unfold inputAfter
            split
            · exact ih _ _ h
            · exact h
          exact hinput.valueFor hs n _

theorem value? (h : r.Sound e seen s) (hs : seen s) (id : String) :
    (Resolver.value? e g s id r).2.Sound e seen s :=
  valueAfter? hs _ _ _ h

theorem input? (h : r.Sound e seen s) (hs : seen s) (id port : String) :
    (Resolver.input? e g s id port r).2.Sound e seen s := by
  unfold Resolver.input?
  cases g.edgeInto? id port with
  | none => exact h
  | some edge => exact h.value? hs edge.source

/-- A sound memory holds the value of a steady node, if it holds one for its input. -/
theorem valueFor_eq (h : r.Sound e seen s) {n : Node} (hsteady : n.data.body.Steady e seen s)
    (input : Json) :
    (Resolver.valueFor e s n input r).1 = (n.data.body.evaluate e s input).1 := by
  rcases valueFor_cases e s n input r with ⟨m, hm, hbody, hinput, hgen, heq⟩ | ⟨heq, -⟩
  · rw [heq]
    obtain ⟨t, hseen, hvars, hvalue⟩ := h.computed hm hgen
    rw [hbody, hinput] at hvalue
    rw [← hvalue]
    exact hsteady t hseen hvars input
  · exact heq

/-- **A sound resolver gives the value that the node provides**, provided that there is fuel for
every node not met yet, and that the nodes read on the way are steady. -/
theorem valueAfter?_eq (hs : seen s) : ∀ (fuel : Nat) (met : List String) (id : String)
    {r : Resolver}, g.unmet met < fuel → r.Sound e seen s →
    (∀ id' n, g.Reads id id' → g.findNode? id' = some n → n.data.body.Steady e seen s) →
    (Resolver.valueAfter? e g s fuel met id r).1 = g.provides? e s met id := by
  intro fuel
  induction fuel with
  | zero =>
    intro met id r hfuel
    omega
  | succ fuel ih =>
    intro met id r hfuel h hsteady
    by_cases hid : id ∈ met
    · rw [valueAfter?_of_mem hid, Graph.provides?_of_mem hid]
    · cases hn : g.findNode? id with
      | none => rw [valueAfter?_of_absent hn, Graph.provides?_of_absent hn]
      | some n =>
        rw [Graph.provides?_of_found hid hn]
        cases hpure : n.type.isPure with
        | false => rw [valueAfter?_of_recorded hid hn hpure]; rfl
        | true =>
          obtain rfl := Graph.findNode?_id hn
          rw [valueAfter?_of_pure hid hn hpure]
          have hinput : (inputAfter e g s fuel met n.id r).1 = g.inputOf e s met n.id ∧
              (inputAfter e g s fuel met n.id r).2.Sound e seen s := by
            unfold inputAfter Graph.inputOf
            cases hedge : g.edgeInto? n.id PortId.input with
            | none => exact ⟨rfl, h⟩
            | some edge =>
              have hless := Graph.unmet_lt_of_findNode? hn hid
              have hfeeds : g.Feeds n.id edge.source := ⟨n, edge, hn, hpure, hedge, rfl⟩
              have hrest := ih (n.id :: met) edge.source (by omega) h fun id' m hreads =>
                hsteady id' m (hreads.head hfeeds)
              exact ⟨congrArg (·.getD Json.null) hrest, Sound.valueAfter? hs _ _ _ h⟩
          unfold computeAfter
          rw [hinput.1, hinput.2.valueFor_eq (hsteady n.id n .refl hn)]
          rfl

theorem value?_eq (h : r.Sound e seen s) (hs : seen s) {id : String}
    (hsteady : ∀ id' n, g.Reads id id' → g.findNode? id' = some n → n.data.body.Steady e seen s) :
    (Resolver.value? e g s id r).1 = g.provides? e s [] id := by
  refine valueAfter?_eq hs _ _ _ ?_ h hsteady
  exact Nat.lt_succ_of_le (g.unmet_le [])

end Sound

/-- A resolver that has seen one dialogue only, that of the state, needs no steady nodes. -/
theorem Sound.value?_eq_of_dialogue (h : r.Sound e seen s) (hs : seen s)
    (hseen : ∀ t, seen t → t.conversation = s.conversation ∧ t.context = s.context) (id : String) :
    (Resolver.value? e g s id r).1 = g.provides? e s [] id := by
  refine h.value?_eq hs fun id' n _ _ t ht hvars input => ?_
  obtain ⟨hconversation, hcontext⟩ := hseen t ht
  rw [n.data.body.evaluate_congr e hvars hconversation hcontext]

/-- A resolver that remembers nothing gives the value that a node provides. -/
theorem value?_of_empty (h : r.memos = []) (id : String) :
    (value? e g s id r).1 = g.provides? e s [] id := by
  have hsound : r.Sound e (· = s) s := .of_empty h
  refine hsound.value?_eq_of_dialogue rfl ?_ id
  rintro t rfl
  exact ⟨rfl, rfl⟩

end Resolver

end Workgraph
