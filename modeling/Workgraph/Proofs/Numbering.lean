import Mathlib.Data.List.Basic
import Mathlib.Data.List.Nodup
import Workgraph.Graph.Builder

/-!
# Ids of edges in a graph that is built

Connections are numbered in the order of the calls that make them. An edge given whole keeps its id
and takes no part in this, nor is its id compared with those of connections.

* `Call` is a call on a graph under construction, and `built` the graph that a list of calls builds.
* `addedEdges` are the edges that calls add; `after_edges` says so of any calls, from what one call
  does.
* `Numbered` says which ids the edges of a built graph have: those given (`givenEdges`) and those
  generated (`generatedIds`), of which no two are the same. So all ids are different just when the
  given ones are and none of them is the id of a connection of the same graph.
-/

namespace Workgraph

namespace GraphBuilder

/-! ## 1. Calls -/

/-- A call on a graph under construction. -/
inductive Call where
  | add (id : String) (body : NodeBody)
  | addInitial (id : String) (type : NodeType)
  | withLabel (label : String)
  | muted
  | connect (source sourcePort target targetPort : String)
  | connectDefault (source target : String)
  | edge (e : Edge)

namespace Call

def apply (b : GraphBuilder) : Call → GraphBuilder
  | .add id body => b.add id body
  | .addInitial id type => b.addInitial id type
  | .withLabel label => b.withLabel label
  | .muted => b.muted
  | .connect source sourcePort target targetPort => b.connect source sourcePort target targetPort
  | .connectDefault source target => b.connectDefault source target
  | .edge e => b.edge e

/-- Whether a call makes a connection, under the next generated id. -/
def connects : Call → Bool
  | .connect .. | .connectDefault .. => true
  | _ => false

/-- The edge that a call gives whole. -/
def given? : Call → Option Edge
  | .edge e => some e
  | _ => none

/-- The edge that a call adds after a number of connections. -/
def adds? (n : Nat) : Call → Option Edge
  | .connect source sourcePort target targetPort =>
    some ⟨edgeId (n + 1), source, target, some sourcePort, some targetPort⟩
  | .connectDefault source target => some { id := edgeId (n + 1), source, target }
  | .edge e => some e
  | _ => none

end Call

/-- The number of connections that calls make. -/
def connectionCount (calls : List Call) : Nat := calls.countP Call.connects

/-- The edges that calls give whole, in their order. -/
def givenEdges (calls : List Call) : List Edge := calls.filterMap Call.given?

/-- The edges that calls add after a number of connections. -/
def addedEdges (n : Nat) : List Call → List Edge
  | [] => []
  | c :: rest => (c.adds? n).toList ++ addedEdges (n + if c.connects then 1 else 0) rest

/-- The ids of so many connections, made after a number of others. -/
def idsFrom (n k : Nat) : List String := (List.range' (n + 1) k).map edgeId

/-- The ids generated by calls. -/
def generatedIds (calls : List Call) : List String := idsFrom 0 (connectionCount calls)

/-- The graph that calls build. -/
def built (calls : List Call) : Graph := (calls.foldl Call.apply {}).graph

/-! ## 2. What calls add -/

theorem changeLast_edges (b : GraphBuilder) (change : NodeData → NodeData) :
    (b.changeLast change).graph.edges = b.graph.edges := by
  unfold changeLast
  split <;> rfl

theorem changeLast_connections (b : GraphBuilder) (change : NodeData → NodeData) :
    (b.changeLast change).connections = b.connections := by
  unfold changeLast
  split <;> rfl

theorem Call.apply_edges (b : GraphBuilder) (c : Call) :
    (c.apply b).graph.edges = b.graph.edges ++ (c.adds? b.connections).toList := by
  cases c with
  | add | addInitial => exact (List.append_nil _).symm
  | withLabel | muted => exact (changeLast_edges b _).trans (List.append_nil _).symm
  | connect | connectDefault | edge => rfl

theorem Call.apply_connections (b : GraphBuilder) (c : Call) :
    (c.apply b).connections = b.connections + if c.connects then 1 else 0 := by
  cases c with
  | withLabel | muted => exact changeLast_connections b _
  | add | addInitial | connect | connectDefault | edge => rfl

/-- **The edges that calls add** stand behind those that are there, and are numbered on from the
connections that were made. -/
theorem after_edges (b : GraphBuilder) (calls : List Call) :
    (calls.foldl Call.apply b).graph.edges = b.graph.edges ++ addedEdges b.connections calls := by
  induction calls generalizing b with
  | nil => exact (List.append_nil _).symm
  | cons c rest ih =>
    rw [List.foldl_cons, ih, Call.apply_edges, Call.apply_connections, List.append_assoc]
    rfl

theorem built_edges (calls : List Call) : (built calls).edges = addedEdges 0 calls :=
  after_edges {} calls

/-! ## 3. Ids -/

/-- No two connections have the same id: a number can be read back from its digits. -/
theorem edgeId_injective : Function.Injective edgeId := by
  intro m n h
  have hchars := congrArg String.toList h
  simp only [edgeId, String.toList_append, Nat.toString_eq_repr, Nat.toList_repr] at hchars
  have hdigits : Nat.toDigits 10 m = Nat.toDigits 10 n := List.append_cancel_left hchars
  have hread := congrArg (fun digits => Nat.ofDigitChars 10 digits 0) hdigits
  simpa only [Nat.ofDigitChars_ten_toDigits] using hread

theorem nodup_idsFrom (n k : Nat) : (idsFrom n k).Nodup :=
  List.Nodup.map edgeId_injective List.nodup_range'

theorem idsFrom_succ (n k : Nat) : idsFrom n (k + 1) = edgeId (n + 1) :: idsFrom (n + 1) k := rfl

theorem mem_generatedIds {calls : List Call} {id : String} :
    id ∈ generatedIds calls ↔ ∃ m, 1 ≤ m ∧ m ≤ connectionCount calls ∧ id = edgeId m := by
  unfold generatedIds idsFrom
  rw [List.mem_map]
  constructor
  · rintro ⟨m, hm, rfl⟩
    have hbounds := List.mem_range'_1.mp hm
    exact ⟨m, by omega, by omega, rfl⟩
  · rintro ⟨m, hlow, hhigh, rfl⟩
    exact ⟨m, List.mem_range'_1.mpr (by omega), rfl⟩

/-- The first of some calls makes a connection, gives an edge whole, or adds none. -/
theorem addedEdges_cons (n : Nat) (c : Call) (rest : List Call) :
    (∃ e, e.id = edgeId (n + 1) ∧ addedEdges n (c :: rest) = e :: addedEdges (n + 1) rest ∧
      givenEdges (c :: rest) = givenEdges rest ∧
      connectionCount (c :: rest) = connectionCount rest + 1) ∨
    (∃ e, addedEdges n (c :: rest) = e :: addedEdges n rest ∧
      givenEdges (c :: rest) = e :: givenEdges rest ∧
      connectionCount (c :: rest) = connectionCount rest) ∨
    (addedEdges n (c :: rest) = addedEdges n rest ∧ givenEdges (c :: rest) = givenEdges rest ∧
      connectionCount (c :: rest) = connectionCount rest) := by
  cases c with
  | connect | connectDefault => exact .inl ⟨_, rfl, rfl, rfl, List.countP_cons_of_pos rfl⟩
  | edge e => exact .inr (.inl ⟨e, rfl, rfl, rfl⟩)
  | add | addInitial | withLabel | muted => exact .inr (.inr ⟨rfl, rfl, rfl⟩)

theorem givenEdges_sublist (n : Nat) (calls : List Call) :
    (givenEdges calls).Sublist (addedEdges n calls) := by
  induction calls generalizing n with
  | nil => exact .slnil
  | cons c rest ih =>
    rcases addedEdges_cons n c rest with
      ⟨e, -, hadded, hgiven, -⟩ | ⟨e, hadded, hgiven, -⟩ | ⟨hadded, hgiven, -⟩
    · rw [hadded, hgiven]
      exact (ih (n + 1)).cons e
    · rw [hadded, hgiven]
      exact (ih n).cons_cons e
    · rw [hadded, hgiven]
      exact ih n

theorem idsFrom_sublist (n : Nat) (calls : List Call) :
    (idsFrom n (connectionCount calls)).Sublist ((addedEdges n calls).map (·.id)) := by
  induction calls generalizing n with
  | nil => exact .slnil
  | cons c rest ih =>
    rcases addedEdges_cons n c rest with
      ⟨e, hid, hadded, -, hcount⟩ | ⟨e, hadded, -, hcount⟩ | ⟨hadded, -, hcount⟩
    · rw [hadded, hcount, idsFrom_succ, List.map_cons, hid]
      exact (ih (n + 1)).cons_cons _
    · rw [hadded, hcount]
      exact (ih n).cons e.id
    · rw [hadded, hcount]
      exact ih n

/-- The ids of edges that calls add are the given ones and the generated ones. -/
theorem addedEdges_perm (n : Nat) (calls : List Call) :
    ((addedEdges n calls).map (·.id)).Perm
      ((givenEdges calls).map (·.id) ++ idsFrom n (connectionCount calls)) := by
  induction calls generalizing n with
  | nil => exact .nil
  | cons c rest ih =>
    rcases addedEdges_cons n c rest with
      ⟨e, hid, hadded, hgiven, hcount⟩ | ⟨e, hadded, hgiven, hcount⟩ | ⟨hadded, hgiven, hcount⟩
    · rw [hadded, hgiven, hcount, idsFrom_succ, List.map_cons, hid]
      exact ((ih (n + 1)).cons _).trans List.perm_middle.symm
    · rw [hadded, hgiven, hcount]
      exact (ih n).cons e.id
    · rw [hadded, hgiven, hcount]
      exact ih n

/-! ## 4. When all ids are different -/

/-- **The ids of edges in the graph that calls build.** -/
structure Numbered (calls : List Call) : Prop where
  /-- Connections are numbered from one on, in their order. -/
  counted : (generatedIds calls).Sublist ((built calls).edges.map (·.id))
  /-- Edges that are given whole are kept as they are, in their order. -/
  kept : (givenEdges calls).Sublist (built calls).edges
  /-- There are no other edges. -/
  noOther : ((built calls).edges.map (·.id)).Perm
    ((givenEdges calls).map (·.id) ++ generatedIds calls)
  /-- No id is generated twice. -/
  fresh : (generatedIds calls).Nodup
  /-- So all ids are different just when those given are, and none of them is `edge-` and the number
  of a connection, made before or after. -/
  distinct : ((built calls).edges.map (·.id)).Nodup ↔ ((givenEdges calls).map (·.id)).Nodup ∧
    ∀ e ∈ givenEdges calls, ∀ m, 1 ≤ m → m ≤ connectionCount calls → e.id ≠ edgeId m
  /-- An id is used as often as it is given, and once more by the connection that has it. -/
  used : ∀ id, ((built calls).edges.map (·.id)).count id =
    ((givenEdges calls).map (·.id)).count id + if id ∈ generatedIds calls then 1 else 0
  /-- In which order the calls are made does not matter. -/
  anyOrder : ∀ calls', calls.Perm calls' →
    (((built calls).edges.map (·.id)).Nodup ↔ ((built calls').edges.map (·.id)).Nodup)

theorem built_perm (calls : List Call) : ((built calls).edges.map (·.id)).Perm
    ((givenEdges calls).map (·.id) ++ generatedIds calls) := by
  rw [built_edges]
  exact addedEdges_perm 0 calls

theorem built_distinct (calls : List Call) :
    ((built calls).edges.map (·.id)).Nodup ↔ ((givenEdges calls).map (·.id)).Nodup ∧
      ∀ e ∈ givenEdges calls, ∀ m, 1 ≤ m → m ≤ connectionCount calls → e.id ≠ edgeId m := by
  rw [(built_perm calls).nodup_iff, List.nodup_append]
  refine and_congr_right fun _ => ⟨?_, fun h => ⟨nodup_idsFrom _ _, ?_⟩⟩
  · rintro ⟨-, hapart⟩ e he m hlow hhigh
    exact hapart e.id (List.mem_map_of_mem he) _ (mem_generatedIds.mpr ⟨m, hlow, hhigh, rfl⟩)
  · intro id hid id' hid'
    obtain ⟨e, he, rfl⟩ := List.mem_map.mp hid
    obtain ⟨m, hlow, hhigh, rfl⟩ := mem_generatedIds.mp hid'
    exact h e he m hlow hhigh

theorem numbered (calls : List Call) : Numbered calls where
  counted := by
    rw [built_edges]
    exact idsFrom_sublist 0 calls
  kept := by
    rw [built_edges]
    exact givenEdges_sublist 0 calls
  noOther := built_perm calls
  fresh := nodup_idsFrom _ _
  distinct := built_distinct calls
  used id := by
    have hcount : (generatedIds calls).count id = if id ∈ generatedIds calls then 1 else 0 :=
      (nodup_idsFrom _ _).count
    rw [(built_perm calls).count_eq, List.count_append, hcount]
  anyOrder calls' hperm := by
    have hgiven : (givenEdges calls).Perm (givenEdges calls') := hperm.filterMap _
    have hcount : connectionCount calls = connectionCount calls' := hperm.countP_eq _
    rw [built_distinct, built_distinct, (hgiven.map _).nodup_iff, hcount]
    simp only [hgiven.mem_iff]

/-- An edge is given under the id that the first connection gets. -/
def namesake : List Call :=
  [.edge { id := "edge-1", source := "a", target := "b" }, .connectDefault "a" "b"]

/-- There is no second edge that is given, and yet two edges have the same id. -/
theorem namesake_clash : ((givenEdges namesake).map (·.id)).Nodup ∧
    ¬((built namesake).edges.map (·.id)).Nodup := by
  decide

end GraphBuilder

end Workgraph
