import Workgraph.Proofs.Narration
import Workgraph.Proofs.Recall

/-!
# Null and nothing

What a pure node computes is given as nothing when it is null. What a node on the chain recorded is
given as it was recorded, so that a recorded null comes out as null.

* `RunState.withoutNulls` is the state without the outputs that are null. A read at it gives nothing
  in place of null and is the same otherwise, also in what is remembered on the way
  (`value?_withoutNulls`).
* `Graph.GivesNull` says which nodes provide null: those of the chain that recorded it.
* `TellsNulls` puts this together, and says that nothing that reads a value in a run tells null from
  nothing: neither pure nodes, nor gates, nor what is written to a variable.
-/

namespace Workgraph

/-! ## 1. Outputs that are null -/

/-- The state without the outputs that are null. -/
def RunState.withoutNulls (s : RunState) : RunState :=
  { s with outputs := s.outputs.filter fun e => s.outputs.get? e.1 ≠ some .null }

/-- Entries that are left out by their keys are not found. -/
theorem Keyed.get?_filter {α : Type} (m : Keyed α) (keep : String → Bool) (k : String) :
    get? (m.filter fun e => keep e.1) k = if keep k then m.get? k else none := by
  induction m with
  | nil => exact (ite_self none).symm
  | cons e rest ih =>
    obtain ⟨k', v⟩ := e
    by_cases hkey : k' = k
    · subst hkey
      by_cases hkeep : keep k' <;> simp [get?, hkeep, ih]
    · by_cases hkeep : keep k' <;> simp [get?, hkey, hkeep, ih]

theorem RunState.outputs_withoutNulls (s : RunState) (id : String) :
    s.withoutNulls.outputs.get? id = (s.outputs.get? id).bind Json.nonNull? := by
  have hfilter := Keyed.get?_filter s.outputs (fun k => s.outputs.get? k ≠ some .null) id
  rw [withoutNulls, hfilter]
  cases s.outputs.get? id with
  | none => rfl
  | some v => cases v <;> rfl

namespace Json

theorem nonNull?_ne_null (v : Json) : v.nonNull? ≠ some .null := by
  cases v <;> simp [nonNull?]

theorem bind_nonNull? (v : Json) : v.nonNull?.bind nonNull? = v.nonNull? := by
  cases v <;> rfl

/-- Where null stands for nothing, both are the same. -/
theorem getD_bind_nonNull? (o : Option Json) : (o.bind nonNull?).getD .null = o.getD .null := by
  cases o with
  | none => rfl
  | some v => cases v <;> rfl

/-- Neither null nor nothing turns a provider on. -/
theorem any_bind_nonNull? (o : Option Json) :
    (o.bind nonNull?).any Tools.isEnabled = o.any Tools.isEnabled := by
  cases o with
  | none => rfl
  | some v => cases v <;> rfl

end Json

/-! ## 2. Reading without nulls -/

namespace Resolver

variable (e : ScriptEngine) (g : Graph) (s : RunState)

/-- To compute a value, the outputs are not looked at. -/
theorem valueFor_withoutNulls (n : Node) (input : Json) (r : Resolver) :
    valueFor e s.withoutNulls n input r = valueFor e s n input r := by
  have hevaluate : n.data.body.evaluate e s.withoutNulls input = n.data.body.evaluate e s input :=
    NodeBody.evaluate_congr e rfl rfl rfl input n.data.body
  unfold valueFor
  rw [hevaluate]
  rfl

/-- **Without the outputs that are null** a read gives nothing in place of null, and leaves the
same resolver behind. -/
theorem valueAfter?_withoutNulls : ∀ (fuel : Nat) (met : List String) (id : String) (r : Resolver),
    valueAfter? e g s.withoutNulls fuel met id r =
      ((valueAfter? e g s fuel met id r).1.bind Json.nonNull?,
        (valueAfter? e g s fuel met id r).2) := by
  intro fuel
  induction fuel with
  | zero => exact fun _ _ _ => rfl
  | succ fuel ih =>
    intro met id r
    by_cases hid : id ∈ met
    · rw [valueAfter?_of_mem hid, valueAfter?_of_mem hid]
      rfl
    · cases hn : g.findNode? id with
      | none =>
        rw [valueAfter?_of_absent hn, valueAfter?_of_absent hn]
        rfl
      | some n =>
        cases hpure : n.type.isPure with
        | false =>
          rw [valueAfter?_of_recorded hid hn hpure, valueAfter?_of_recorded hid hn hpure,
            RunState.outputs_withoutNulls]
        | true =>
          obtain rfl := Graph.findNode?_id hn
          -- a pure node takes nothing for null, so its input is the same
          have hinput : inputAfter e g s.withoutNulls fuel met n.id r =
              inputAfter e g s fuel met n.id r := by
            unfold inputAfter
            cases g.edgeInto? n.id PortId.input with
            | none => rfl
            | some edge => simp only [ih, Json.getD_bind_nonNull?]
          have hcompute : computeAfter e g s.withoutNulls fuel met n r =
              computeAfter e g s fuel met n r := by
            unfold computeAfter
            rw [hinput, valueFor_withoutNulls]
          rw [valueAfter?_of_pure hid hn hpure, valueAfter?_of_pure hid hn hpure, hcompute,
            Json.bind_nonNull?]

theorem value?_withoutNulls (id : String) (r : Resolver) :
    value? e g s.withoutNulls id r =
      ((value? e g s id r).1.bind Json.nonNull?, (value? e g s id r).2) :=
  valueAfter?_withoutNulls e g s _ _ id r

theorem input?_withoutNulls (id port : String) (r : Resolver) :
    input? e g s.withoutNulls id port r =
      ((input? e g s id port r).1.bind Json.nonNull?, (input? e g s id port r).2) := by
  unfold input?
  cases g.edgeInto? id port with
  | none => rfl
  | some edge => exact value?_withoutNulls e g s edge.source r

end Resolver

/-! ## 3. Which nodes provide null -/

/-- A node of the chain that recorded null. -/
def Graph.GivesNull (g : Graph) (s : RunState) (id : String) : Prop :=
  ∃ n, g.findNode? id = some n ∧ n.type.isPure = false ∧ s.outputs.get? id = some .null

namespace Resolver

variable {e : ScriptEngine} {g : Graph} {s : RunState} {id : String} {r : Resolver}

theorem value?_eq_null_iff : (value? e g s id r).1 = some .null ↔ g.GivesNull s id := by
  unfold value? Graph.GivesNull
  have hid : id ∉ [] := List.not_mem_nil
  cases hn : g.findNode? id with
  | none =>
    rw [valueAfter?_of_absent hn]
    exact ⟨nofun, fun ⟨_, h, _⟩ => nomatch h⟩
  | some n =>
    cases hpure : n.type.isPure with
    | false =>
      rw [valueAfter?_of_recorded hid hn hpure]
      exact ⟨fun h => ⟨n, rfl, hpure, h⟩, fun ⟨_, _, _, h⟩ => h⟩
    | true =>
      obtain rfl := Graph.findNode?_id hn
      rw [valueAfter?_of_pure hid hn hpure]
      refine ⟨fun h => absurd h (Json.nonNull?_ne_null _), ?_⟩
      rintro ⟨m, hm, hchain, -⟩
      cases hm
      rw [hpure] at hchain
      cases hchain

theorem input?_eq_null_iff {port : String} : (input? e g s id port r).1 = some .null ↔
    ∃ edge, g.edgeInto? id port = some edge ∧ g.GivesNull s edge.source := by
  unfold input?
  cases hedge : g.edgeInto? id port with
  | none => exact ⟨nofun, fun ⟨_, h, _⟩ => nomatch h⟩
  | some edge =>
    refine value?_eq_null_iff.trans ⟨fun h => ⟨edge, rfl, h⟩, ?_⟩
    rintro ⟨edge', hedge', h⟩
    cases hedge'
    exact h

end Resolver

/-- Whether a gate is open does not depend on nulls. -/
theorem Tools.isOpen_withoutNulls (e : ScriptEngine) (g : Graph) (s : RunState) (n : Node)
    (r : Resolver) : isOpen e g s.withoutNulls n r = isOpen e g s n r := by
  have hread := Resolver.input?_withoutNulls e g s n.id PortId.enable r
  unfold isOpen
  split_ifs
  · change ((Resolver.input? e g s.withoutNulls n.id PortId.enable r).1.any isEnabled,
      (Resolver.input? e g s.withoutNulls n.id PortId.enable r).2) = _
    rw [hread, Json.any_bind_nonNull?]
    rfl
  · rfl

/-! ## 4. Null and nothing -/

/-- **Where reads give null**, and what comes of it, at a state and whatever is remembered. -/
structure TellsNulls (e : ScriptEngine) (g : Graph) (s : RunState) (r : Resolver) : Prop where
  /-- A node provides null just when it is one of the chain and recorded null. -/
  provided : ∀ id, (Resolver.value? e g s id r).1 = some .null ↔ g.GivesNull s id
  /-- Null flows into a port just when it is wired to such a node. -/
  flowsIn : ∀ id port, (Resolver.input? e g s id port r).1 = some .null ↔
    ∃ edge, g.edgeInto? id port = some edge ∧ g.GivesNull s edge.source
  /-- Without the outputs that are null, a read gives nothing in place of null. All else is the
  same: what other values are given, and what is remembered, counted and logged. -/
  bare : ∀ id, Resolver.value? e g s.withoutNulls id r =
    ((Resolver.value? e g s id r).1.bind Json.nonNull?, (Resolver.value? e g s id r).2)
  bareInput : ∀ id port, Resolver.input? e g s.withoutNulls id port r =
    ((Resolver.input? e g s id port r).1.bind Json.nonNull?, (Resolver.input? e g s id port r).2)
  /-- Gates are open or closed as they would be without these outputs, -/
  gates : ∀ n, Tools.isOpen e g s.withoutNulls n r = Tools.isOpen e g s n r
  /-- and the same value would be written to a variable. -/
  written : ∀ id, ((Resolver.input? e g s.withoutNulls id PortId.value r).1).getD .null =
    ((Resolver.input? e g s id PortId.value r).1).getD .null
  /-- A run records such outputs: a node of the chain that it leaves with the payload null provides
  null. -/
  left : ∀ {σ : Type} (c : Frame σ) (v : Stay σ) (t : Transition), c.graph = g →
    v.answer c = .ok t → (v.left c).state = s → s.payload = .null →
    g.findNode? v.node.id = some v.node → v.node.type.isPure = false →
    (Resolver.value? e g s v.node.id r).1 = some .null

theorem Resolver.tellsNulls (e : ScriptEngine) (g : Graph) (s : RunState) (r : Resolver) :
    TellsNulls e g s r where
  provided id := value?_eq_null_iff
  flowsIn id port := input?_eq_null_iff
  bare id := value?_withoutNulls e g s id r
  bareInput id port := input?_withoutNulls e g s id port r
  gates n := Tools.isOpen_withoutNulls e g s n r
  written id := by
    rw [input?_withoutNulls, Json.getD_bind_nonNull?]
  left c v t hgraph hanswer hleft hpayload hfound hchain := by
    have hrecorded := Stay.left_output hanswer
    rw [hleft, hpayload] at hrecorded
    exact value?_eq_null_iff.mpr ⟨v.node, hfound, hchain, hrecorded⟩

/-- What the start node recorded is to be written to a variable. -/
def emptyHanded : Graph :=
  { nodes := [⟨"start", .start, .initial .start⟩, ⟨"set", .setVariable, .initial .setVariable⟩]
    edges := [{ id := "1", source := "start", target := "set", targetPort := some PortId.value }] }

/-- A run without a payload has recorded null for it. This is given as null, by the node and at the
port, though null stands for nothing where a pure node computes it. -/
theorem emptyHanded_givesNull :
    (Resolver.value? (.limited {}) emptyHanded { outputs := [("start", .null)] } "start" {}).1 =
      some .null ∧
    (Resolver.input? (.limited {}) emptyHanded { outputs := [("start", .null)] } "set"
      PortId.value {}).1 = some .null := by
  decide +kernel

end Workgraph
