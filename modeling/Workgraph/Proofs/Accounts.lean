import Mathlib.Data.List.Induction
import Workgraph.Proofs.Course
import Workgraph.Proofs.Effects
import Workgraph.Proofs.Paths
import Workgraph.Proofs.SoundRun

/-!
# What a state accounts for

A state is what its history made of it. This file reads the variables, their generation and the
context off the history, for any sequence of writes and for any run.

* `Fragment.insert_mergeSort`: putting fragments in one by one, each behind those of its priority,
  sorts them as a stable sort does.
* `Accounts` says of a state what a history from an empty one accounts for; `accounts_after` says
  that every history does.
* `Stay.Did` lists the writes of a stay: those of its node, then the recorded output. A node that
  does not ask the model writes at most once. `Chronicle` puts the stays of a run together.
* `history_accounts` is about histories and about the runs that begin after them.
-/

namespace Workgraph

open Exec

variable {σ : Type}

/-! ## 1. The order of the context -/

namespace Fragment

/-- Whether a fragment stands before another one or is of the same priority. -/
def before (f g : Fragment) : Bool := g.priority ≤ f.priority

theorem before_iff {f g : Fragment} : f.before g = true ↔ g.priority ≤ f.priority :=
  decide_eq_true_iff

theorem before_trans (f g h : Fragment) (hfg : f.before g = true) (hgh : g.before h = true) :
    f.before h = true := by
  rw [before_iff] at *
  omega

theorem before_total (f g : Fragment) : (f.before g || g.before f) = true := by
  rw [Bool.or_eq_true, before_iff, before_iff]
  omega

/-- Sorted lists are equal when they hold the same fragments of each priority in the same order. -/
theorem eq_of_filter_eq : ∀ {l l' : List Fragment},
    l.Pairwise (fun f g => f.before g = true) → l'.Pairwise (fun f g => f.before g = true) →
    (∀ p, l.filter (fun f => f.priority = p) = l'.filter fun f => f.priority = p) → l = l' := by
  intro l
  induction l with
  | nil =>
    intro l' _ _ h
    cases l' with
    | nil => rfl
    | cons g gs =>
      have hg := h g.priority
      rw [List.filter_cons_of_pos (by simp)] at hg
      cases hg
  | cons f fs ih =>
    intro l' hl hl' h
    cases l' with
    | nil =>
      have hf := h f.priority
      rw [List.filter_cons_of_pos (by simp)] at hf
      cases hf
    | cons g gs =>
      obtain ⟨hfirst, hfs⟩ := List.pairwise_cons.mp hl
      obtain ⟨hfirst', hgs⟩ := List.pairwise_cons.mp hl'
      -- each head is in the other list, so neither priority is the greater one
      have hmem : f ∈ g :: gs := by
        have hf : f ∈ (g :: gs).filter fun f' => f'.priority = f.priority := by
          rw [← h]
          simp
        exact (List.mem_filter.mp hf).1
      have hmem' : g ∈ f :: fs := by
        have hg : g ∈ (f :: fs).filter fun f' => f'.priority = g.priority := by
          rw [h]
          simp
        exact (List.mem_filter.mp hg).1
      have hle : f.priority ≤ g.priority := by
        rcases List.mem_cons.mp hmem with rfl | hf
        · exact Int.le_refl _
        · exact before_iff.mp (hfirst' f hf)
      have hle' : g.priority ≤ f.priority := by
        rcases List.mem_cons.mp hmem' with rfl | hg
        · exact Int.le_refl _
        · exact before_iff.mp (hfirst g hg)
      have heq : g.priority = f.priority := Int.le_antisymm hle' hle
      have hheads := h f.priority
      rw [List.filter_cons_of_pos (by simp), List.filter_cons_of_pos (by simp [heq])] at hheads
      obtain rfl := List.head_eq_of_cons_eq hheads
      refine congrArg (f :: ·) (ih hfs hgs fun p => ?_)
      have hp := h p
      by_cases hfp : f.priority = p
      · rw [List.filter_cons_of_pos (by simp [hfp]), List.filter_cons_of_pos (by simp [hfp])] at hp
        exact List.tail_eq_of_cons_eq hp
      · rwa [List.filter_cons_of_neg (by simp [hfp]), List.filter_cons_of_neg (by simp [hfp])] at hp

theorem insert_perm (f : Fragment) (l : List Fragment) : (f.insert l).Perm (f :: l) := by
  induction l with
  | nil => exact .refl _
  | cons g gs ih =>
    unfold insert
    split
    · exact .refl _
    · exact (ih.cons g).trans (.swap f g gs)

theorem insert_pairwise (f : Fragment) {l : List Fragment}
    (h : l.Pairwise fun f g => f.before g = true) :
    (f.insert l).Pairwise fun f g => f.before g = true := by
  induction l with
  | nil => exact List.pairwise_singleton _ _
  | cons g gs ih =>
    obtain ⟨hfirst, hgs⟩ := List.pairwise_cons.mp h
    unfold insert
    split
    · next hlt =>
      refine List.pairwise_cons.mpr ⟨fun k hk => ?_, h⟩
      have hfg : f.before g = true := before_iff.mpr (Int.le_of_lt hlt)
      rcases List.mem_cons.mp hk with rfl | hk
      · exact hfg
      · exact before_trans f g k hfg (hfirst k hk)
    · next hle =>
      refine List.pairwise_cons.mpr ⟨fun k hk => ?_, ih hgs⟩
      rcases List.mem_cons.mp ((f.insert_perm gs).mem_iff.mp hk) with rfl | hk
      · exact before_iff.mpr (Int.not_lt.mp hle)
      · exact hfirst k hk

/-- A fragment is put behind all of its priority; other priorities stay as they are. -/
theorem filter_insert (f : Fragment) (p : Int) {l : List Fragment}
    (h : l.Pairwise fun f g => f.before g = true) :
    (f.insert l).filter (fun g => g.priority = p) = (l ++ [f]).filter fun g => g.priority = p := by
  induction l with
  | nil => rfl
  | cons g gs ih =>
    obtain ⟨hfirst, hgs⟩ := List.pairwise_cons.mp h
    unfold insert
    split
    · next hlt =>
      rw [List.filter_append]
      by_cases hfp : f.priority = p
      · have hnone : (g :: gs).filter (fun g => g.priority = p) = [] := by
          rw [List.filter_eq_nil_iff]
          intro k hk hkp
          have hkp : k.priority = p := of_decide_eq_true hkp
          rcases List.mem_cons.mp hk with rfl | hk
          · omega
          · have := before_iff.mp (hfirst k hk)
            omega
        rw [List.filter_cons, hnone]
        simp [hfp]
      · simp [List.filter_cons, hfp]
    · rw [List.cons_append, List.filter_cons, List.filter_cons, ih hgs]

/-- Sorting keeps the order among equal priorities. -/
theorem filter_mergeSort (l : List Fragment) (p : Int) :
    (l.mergeSort before).filter (fun f => f.priority = p) =
      l.filter fun f => f.priority = p := by
  have hsorted : (l.filter fun f => f.priority = p).Pairwise fun f g => f.before g = true := by
    refine List.pairwise_of_forall_mem_list fun f hf g hg => before_iff.mpr ?_
    have hf := of_decide_eq_true (List.mem_filter.mp hf).2
    have hg := of_decide_eq_true (List.mem_filter.mp hg).2
    omega
  have hsub : (l.filter fun f => f.priority = p).Sublist (l.mergeSort before) :=
    List.sublist_mergeSort before_trans before_total hsorted List.filter_sublist
  have hfiltered := hsub.filter fun f => f.priority = p
  rw [List.filter_filter] at hfiltered
  simp only [Bool.and_self] at hfiltered
  refine (hfiltered.eq_of_length ?_).symm
  exact ((List.mergeSort_perm l before).filter _).length_eq.symm

/-- **Putting a fragment in** sorts it in as a stable sort does with a last element. -/
theorem insert_mergeSort (f : Fragment) (l : List Fragment) :
    f.insert (l.mergeSort before) = (l ++ [f]).mergeSort before := by
  have hsorted := List.pairwise_mergeSort before_trans before_total l
  refine eq_of_filter_eq (insert_pairwise f hsorted)
    (List.pairwise_mergeSort before_trans before_total _) fun p => ?_
  rw [filter_insert f p hsorted, filter_mergeSort, List.filter_append, List.filter_append,
    filter_mergeSort]

end Fragment

/-! ## 2. The variables -/

namespace Json

/-- A path leads somewhere, so what is written along it ends up in an object. -/
theorem setPath_object {v w u : Json} {path : String} (h : v.setPath path w = .ok u) :
    ∃ members, u = .object members := by
  unfold setPath segments at h
  split at h
  · cases h
  · dsimp only at h
    split at h
    · cases h
    · cases hpieces : splitOn '.' path.toList with
      | nil => exact absurd hpieces (splitOn_ne_nil _ _)
      | cons piece pieces =>
        rw [hpieces] at h
        cases h
        exact ⟨_, rfl⟩

end Json

theorem RunState.asVars_object (v : Json) : ∃ members, asVars v = .object members := by
  cases v <;> exact ⟨_, rfl⟩

/-! ## 3. Histories -/

/-- The state after a history. -/
def RunState.after (s : RunState) (ops : List Operation) : RunState := ops.foldl Operation.write s

namespace Operation

/-- Whether an operation writes to the variables and does not fail. -/
def advances (s : RunState) : Operation → Bool
  | .setVar path v => (s.setVar path v).toOption.isSome
  | .replaceVars _ => true
  | _ => false

/-- The fragment that is put into the context. -/
def pushed? : Operation → Option Fragment
  | .pushContext f => some f
  | _ => none

/-- How many operations of a history write to the variables and do not fail. -/
def countWrites : RunState → List Operation → Nat
  | _, [] => 0
  | s, op :: ops => (if op.advances s then 1 else 0) + countWrites (op.write s) ops

theorem countWrites_append (ops ops' : List Operation) (s : RunState) :
    countWrites s (ops ++ ops') = countWrites s ops + countWrites (s.after ops) ops' := by
  induction ops generalizing s with
  | nil => exact (Nat.zero_add _).symm
  | cons op ops ih =>
    rw [List.cons_append, countWrites, countWrites, ih, Nat.add_assoc]
    rfl

/-- A write to a variable fails and changes nothing, or advances the generation and leaves an
object. -/
theorem write_setVar_cases (path : String) (v : Json) (s : RunState) :
    ((Operation.setVar path v).advances s = false ∧ write s (.setVar path v) = s) ∨
    ((Operation.setVar path v).advances s = true ∧ ∃ members, write s (.setVar path v) =
      { s with vars := .object members, generation := s.generation + 1 }) := by
  cases hpath : s.vars.setPath path v with
  | error f =>
    left
    simp only [advances, write, RunState.setVar, hpath, Except.map, Except.toOption]
    exact ⟨rfl, trivial⟩
  | ok vars =>
    right
    obtain ⟨members, rfl⟩ := Json.setPath_object hpath
    simp only [advances, write, RunState.setVar, hpath, Except.map, Except.toOption]
    exact ⟨rfl, members, rfl⟩

theorem write_vars (op : Operation) {s : RunState} (h : ∃ members, s.vars = .object members) :
    ∃ members, (op.write s).vars = .object members := by
  cases op with
  | setVar path v =>
    rcases write_setVar_cases path v s with ⟨-, hw⟩ | ⟨-, members, hw⟩
    · rwa [hw]
    · exact ⟨members, by rw [hw]⟩
  | replaceVars v => exact RunState.asVars_object v
  | _ => exact h

theorem write_generation (op : Operation) (s : RunState) :
    (op.write s).generation = s.generation + if op.advances s then 1 else 0 := by
  cases op with
  | setVar path v =>
    rcases write_setVar_cases path v s with ⟨hno, hw⟩ | ⟨hyes, members, hw⟩
    · rw [hw, hno]
      rfl
    · rw [hw, hyes]
      rfl
  | _ => rfl

theorem write_context (op : Operation) (s : RunState) :
    (op.write s).context = match op.pushed? with
      | some f => f.insert s.context
      | none => s.context := by
  cases op with
  | setVar path v =>
    rcases write_setVar_cases path v s with ⟨-, hw⟩ | ⟨-, members, hw⟩ <;> rw [hw] <;> rfl
  | _ => rfl

/-- A conversation only goes on. -/
theorem write_conversation (op : Operation) (s : RunState) :
    s.conversation <+: (op.write s).conversation := by
  cases op with
  | setVar path v =>
    have hkept : (write s (.setVar path v)).conversation = s.conversation := by
      rcases write_setVar_cases path v s with ⟨-, hw⟩ | ⟨-, members, hw⟩ <;> rw [hw]
    exact ⟨[], by rw [List.append_nil, hkept]⟩
  | converse t => exact List.prefix_append _ _
  | _ => exact List.prefix_rfl

end Operation

/-- **What a history accounts for** in a state that began empty. -/
structure Accounts (payload : Json) (ops : List Operation) (s : RunState) : Prop where
  vars : ∃ members, s.vars = .object members
  generation : s.generation = Operation.countWrites { payload } ops
  /-- The context holds what was pushed, sorted by descending priority as a stable sort does. -/
  context : s.context = (ops.filterMap Operation.pushed?).mergeSort Fragment.before
  /-- So nothing is lost and nothing is there twice, -/
  complete : s.context.Perm (ops.filterMap Operation.pushed?)
  /-- higher priorities stand first, -/
  ordered : s.context.Pairwise fun f g => g.priority ≤ f.priority
  /-- and each priority keeps the order in which it was pushed. -/
  stable : ∀ p, s.context.filter (fun f => f.priority = p) =
    (ops.filterMap Operation.pushed?).filter fun f => f.priority = p

/-- The last three follow from the order of the context. -/
theorem Accounts.of_context {payload : Json} {ops : List Operation} {s : RunState}
    (vars : ∃ members, s.vars = .object members)
    (generation : s.generation = Operation.countWrites { payload } ops)
    (context : s.context = (ops.filterMap Operation.pushed?).mergeSort Fragment.before) :
    Accounts payload ops s where
  vars := vars
  generation := generation
  context := context
  complete := context ▸ List.mergeSort_perm _ _
  ordered := by
    rw [context]
    exact (List.pairwise_mergeSort Fragment.before_trans Fragment.before_total _).imp
      Fragment.before_iff.mp
  stable p := by rw [context, Fragment.filter_mergeSort]

/-- What one more operation adds to the account. -/
theorem Accounts.write {payload : Json} {ops : List Operation} {s : RunState}
    (h : Accounts payload ops s) (hs : s = RunState.after { payload } ops) (op : Operation) :
    Accounts payload (ops ++ [op]) (op.write s) := by
  have hcount : Operation.countWrites { payload } (ops ++ [op]) =
      s.generation + if op.advances s then 1 else 0 := by
    rw [Operation.countWrites_append, ← hs, ← h.generation]
    rfl
  refine .of_context (op.write_vars h.vars) ((op.write_generation s).trans hcount.symm) ?_
  rw [op.write_context, h.context, List.filterMap_append, List.filterMap_cons, List.filterMap_nil]
  cases op.pushed? with
  | none => rw [List.append_nil]
  | some f => exact Fragment.insert_mergeSort f _

/-- **Every history accounts for its state.** -/
theorem accounts_after (payload : Json) (ops : List Operation) :
    Accounts payload ops (RunState.after { payload } ops) := by
  induction ops using List.reverseRecOn with
  | nil => exact .of_context ⟨[], rfl⟩ rfl List.mergeSort_nil.symm
  | append_singleton ops op ih =>
    have hafter : RunState.after { payload } (ops ++ [op]) =
        op.write (RunState.after { payload } ops) := List.foldl_concat _ _ _ _
    rw [hafter]
    exact ih.write rfl op

theorem RunState.conversation_after (ops : List Operation) (s : RunState) :
    s.conversation <+: (s.after ops).conversation := by
  induction ops generalizing s with
  | nil => exact List.prefix_rfl
  | cons op ops ih => exact (op.write_conversation s).trans (ih (op.write s))

theorem RunState.after_append (ops ops' : List Operation) (s : RunState) :
    s.after (ops ++ ops') = (s.after ops).after ops' := List.foldl_append

/-! ## 4. The writes of a node -/

/-- One session follows from another by some writes to the state. -/
def Session.Wrote (writes : Operation → Prop) (s s' : Session σ) : Prop :=
  ∃ ops, (∀ op ∈ ops, writes op) ∧ s'.state = s.state.after ops

theorem Frame.admits_wrote (c : Frame σ) (writes : Operation → Prop) :
    c.Admits (Session.Wrote writes) where
  refl _ := ⟨[], fun _ hop => absurd hop List.not_mem_nil, rfl⟩
  trans := by
    rintro s t u ⟨ops, hops, ht⟩ ⟨ops', hops', hu⟩
    refine ⟨ops ++ ops', fun op hop => ?_, ?_⟩
    · rcases List.mem_append.mp hop with hop | hop
      · exact hops op hop
      · exact hops' op hop
    · rw [hu, ht, RunState.after_append]
  resolver _ _ := ⟨[], fun _ hop => absurd hop List.not_mem_nil, rfl⟩
  world _ _ := ⟨[], fun _ hop => absurd hop List.not_mem_nil, rfl⟩

theorem allows_wrote (writes : Operation → Prop) :
    Allows (Session.Wrote (σ := σ) writes) writes :=
  fun op hop _ => ⟨[op], List.forall_mem_singleton.mpr hop, rfl⟩

/-- The executor of a node writes as its body does. -/
theorem Exec.execute_wrote (c : Frame σ) (n : Node) :
    Keeps (Session.Wrote (n.data.body.Writes c n.id)) (execute c n) :=
  execute_keeps (c.admits_wrote _) (fun _ => ⟨[], fun _ hop => absurd hop List.not_mem_nil, rfl⟩)
    (allows_wrote _)

/-- The state stays as it is. -/
def Session.SameState (s s' : Session σ) : Prop := s'.state = s.state

theorem Frame.admits_sameState (c : Frame σ) : c.Admits Session.SameState where
  refl _ := rfl
  trans h h' := h'.trans h
  resolver _ _ := rfl
  world _ _ := rfl

namespace Exec

variable {α β : Type} {c : Frame σ} {writes : Operation → Prop} {act : Exec σ α} {k : α → Exec σ β}

/-- A step writes to the state at most once. -/
def Once (writes : Operation → Prop) (act : Exec σ α) : Prop :=
  ∀ s, (settle act s).2.state = s.state ∨
    ∃ op, writes op ∧ (settle act s).2.state = op.write s.state

namespace Once

theorem of_keeps (h : Keeps Session.SameState act) : Once writes act := fun s => Or.inl (h s)

theorem changeState {f : RunState → RunState}
    (h : ∀ s, ∃ op, writes op ∧ f s = Operation.write s op) :
    Once writes (Exec.changeState f : Exec σ Unit) := fun s => Or.inr (h s.state)

/-- First the state stays as it is, then it is written. -/
theorem after (h : Keeps Session.SameState act) (hk : ∀ a, Once writes (k a)) :
    Once writes (act >>= k) := by
  intro s
  have hsame := h s
  cases hs : settle act s with
  | mk x s' =>
    rw [hs] at hsame
    cases x with
    | ok a =>
      rw [settle_bind_of_ok hs, ← show s'.state = s.state from hsame]
      exact hk a s'
    | error f =>
      rw [settle_bind_of_error hs]
      exact Or.inl hsame

/-- First the state is written, then it stays as it is. -/
theorem before (h : Once writes act) (hk : ∀ a, Keeps Session.SameState (k a)) :
    Once writes (act >>= k) := by
  intro s
  have hfirst := h s
  cases hs : settle act s with
  | mk x s' =>
    rw [hs] at hfirst
    cases x with
    | ok a =>
      rw [settle_bind_of_ok hs, show (settle (k a) s').2.state = s'.state from hk a s']
      exact hfirst
    | error f =>
      rw [settle_bind_of_error hs]
      exact hfirst

end Once

variable (c) (nodeId : String)

theorem writeVariable_once (b : SetVariableBody) :
    Once (NodeBody.Writes c nodeId (.setVariable b)) (writeVariable c nodeId b) := by
  have hsame := c.admits_sameState
  refine .after (valueToWrite_keeps hsame nodeId b) fun v s => ?_
  have hlook : settle (state : Exec σ RunState) s = (.ok s.state, s) := rfl
  rw [settle_bind_of_ok hlook]
  cases hset : s.state.setVar b.path v with
  | error f => exact Or.inl rfl
  | ok state =>
    refine Or.inr ⟨.setVar b.path v, rfl, ?_⟩
    exact (congrArg Session.state (Session.write_setVar hset)).symm

/-- A node that does not ask the model writes at most once. -/
theorem perform_once (b : NodeBody) (h : ∀ b', b ≠ .completion b') :
    Once (b.Writes c nodeId) (perform c nodeId b) := by
  have hsame := c.admits_sameState
  have hask : c.AdmitsRequests Session.SameState := fun _ => rfl
  cases b with
  | completion b => exact absurd rfl (h b)
  | transform b =>
    refine .after (requiredScript_keeps hsame _ _ _) fun v => ?_
    refine .before (.changeState fun s => ⟨.setPayload v, trivial, rfl⟩) fun _ => .pure hsame _
  | getVariable b =>
    refine .after (.ofExcept hsame _) fun path => ?_
    exact fun s => Or.inr ⟨.setPayload (b.valueAt s.state path), trivial, rfl⟩
  | setVariable b => exact .before (writeVariable_once c nodeId b) fun _ => .pure hsame _
  | contextMessage b =>
    refine .before ?_ fun _ => .pure hsame _
    unfold addFragment
    split
    · exact .of_keeps (.trace hsame _)
    · exact .changeState fun s => ⟨.pushContext _, rfl, rfl⟩
  | _ => exact .of_keeps (perform_keeps hsame nodeId hask fun _ hop => hop.elim)

theorem execute_once (n : Node) (h : ∀ b, n.data.body ≠ .completion b) :
    Once (n.data.body.Writes c n.id) (execute c n) := by
  have hsame := c.admits_sameState
  refine .after (.trace hsame _) fun _ => ?_
  split
  · exact .of_keeps (.bind hsame (.trace hsame _) fun _ => .pure hsame _)
  · exact perform_once c n.id n.data.body h

end Exec

/-! ## 5. Stays and runs -/

namespace Stay

/-- **What a stay did to the state**, but for the output that is recorded when its node is
finished. -/
structure Did (c : Frame σ) (v : Stay σ) (ops : List Operation) : Prop where
  writes : ∀ op ∈ ops, v.node.data.body.Writes c v.node.id op
  /-- Only a node that asks the model writes more than once. -/
  once : (∀ b, v.node.data.body ≠ .completion b) → ops.length ≤ 1
  work : (v.work c).2.state = v.reached.state.after ops

theorem exists_did (c : Frame σ) (v : Stay σ) : ∃ ops, v.Did c ops := by
  by_cases hcompletion : ∃ b, v.node.data.body = .completion b
  · obtain ⟨b, hb⟩ := hcompletion
    obtain ⟨ops, hwrites, hstate⟩ := execute_wrote c v.node (entering c v.node v.reached)
    exact ⟨ops, hwrites, fun hno => absurd hb (hno b), hstate⟩
  · have hno : ∀ b, v.node.data.body ≠ .completion b := fun b hb => hcompletion ⟨b, hb⟩
    rcases execute_once c v.node hno (entering c v.node v.reached) with hsame | ⟨op, hop, hstate⟩
    · exact ⟨[], fun _ h => absurd h List.not_mem_nil, fun _ => Nat.zero_le _, hsame⟩
    · exact ⟨[op], List.forall_mem_singleton.mpr hop, fun _ => Nat.le_refl _, hstate⟩

/-- The history of a stay: what it did, and the recorded output. -/
def history (c : Frame σ) (v : Stay σ) (did : List Operation) : List Operation :=
  match v.answer c with
  | .ok _ => did ++ [.recordOutput v.node.id (v.work c).2.state.payload]
  | .error _ => did

theorem Did.left {c : Frame σ} {v : Stay σ} {ops : List Operation} (h : v.Did c ops) :
    (v.left c).state = v.reached.state.after (v.history c ops) := by
  unfold history
  cases hanswer : v.answer c with
  | ok t =>
    rw [v.left_of_ok hanswer, RunState.after_append, ← h.work]
    rfl
  | error f => rw [v.left_of_error hanswer, h.work]

end Stay

/-- The history of some stays, one after the other. -/
def Stay.histories (c : Frame σ) (did : Stay σ → List Operation) (vs : List (Stay σ)) :
    List Operation := vs.flatMap fun v => v.history c (did v)

/-- **A chronicle of some stays**: each begins where the histories before it lead, and all of them
lead from the first state to the last. -/
structure Chronicle (c : Frame σ) (did : Stay σ → List Operation) (first : RunState)
    (vs : List (Stay σ)) (last : RunState) : Prop where
  reached : ∀ earlier v later, vs = earlier ++ v :: later →
    v.reached.state = first.after (Stay.histories c did earlier)
  last : last = first.after (Stay.histories c did vs)

namespace Chronicle

variable {c : Frame σ} {did : Stay σ → List Operation} {s : RunState} {v : Stay σ}
  {vs : List (Stay σ)}

theorem nil (s : RunState) : Chronicle c did s [] s where
  reached earlier v later h := by cases earlier <;> cases h
  last := rfl

theorem cons (hv : v.Did c (did v)) (h : Chronicle c did (v.left c).state vs s) :
    Chronicle c did v.reached.state (v :: vs) s where
  reached earlier u later hsplit := by
    cases earlier with
    | nil =>
      cases hsplit
      rfl
    | cons w earlier =>
      obtain ⟨rfl, hrest⟩ := List.cons_eq_cons.mp hsplit
      rw [h.reached earlier u later hrest, hv.left, ← RunState.after_append]
      rfl
  last := by
    rw [h.last, hv.left, ← RunState.after_append]
    rfl

/-- Every course has a chronicle. -/
theorem of_course {left : Nat} {o : RunOutcome} {s : Session σ} (h : Course c left v vs o s)
    (hdid : ∀ u : Stay σ, u.Did c (did u)) : Chronicle c did v.reached.state vs s.state := by
  induction h with
  | cancelled => exact .nil _
  | exhausted => exact .nil _
  | failed => exact .cons (hdid _) (.nil _)
  | interrupted => exact .cons (hdid _) (.nil _)
  | ended => exact .cons (hdid _) (.nil _)
  | passes _ _ _ _ _ ih => exact .cons (hdid _) ih

end Chronicle

/-- **The states of a run** that began after a history, from the stays and what each of them did. -/
structure AccountedRun (c : Frame σ) (payload : Json) (ops : List Operation)
    (stays : List (Stay σ)) (did : Stay σ → List Operation) (last : RunState) : Prop where
  writes : ∀ v ∈ stays, v.Did c (did v)
  /-- What a stay did leads from the state in which its node was reached to the one in which it was
  left. -/
  left : ∀ v ∈ stays, (v.left c).state = v.reached.state.after (v.history c (did v))
  /-- Every state on the way accounts for all that was written until then. -/
  way : ∀ earlier v later, stays = earlier ++ v :: later → ∀ past, past <+: v.history c (did v) →
    Accounts payload (ops ++ (Stay.histories c did earlier ++ past)) (v.reached.state.after past)
  /-- So does the state of the result. -/
  result : Accounts payload (ops ++ Stay.histories c did stays) last
  /-- The conversation goes on from the one with which the run began: in every state on the way, -/
  talk : ∀ v ∈ stays, ∀ past, past <+: v.history c (did v) →
    (RunState.after { payload } ops).conversation <+: (v.reached.state.after past).conversation
  /-- and in the result. -/
  lastTalk : (RunState.after { payload } ops).conversation <+: last.conversation

theorem Chronicle.accounted {c : Frame σ} {payload : Json} {ops : List Operation}
    {stays : List (Stay σ)} {did : Stay σ → List Operation} {last : RunState}
    (h : Chronicle c did (RunState.after { payload } ops) stays last)
    (hdid : ∀ v : Stay σ, v.Did c (did v)) : AccountedRun c payload ops stays did last where
  writes v _ := hdid v
  left v _ := (hdid v).left
  way earlier v later hsplit past _ := by
    rw [h.reached earlier v later hsplit, ← RunState.after_append, ← RunState.after_append]
    exact accounts_after payload _
  result := by
    rw [h.last, ← RunState.after_append]
    exact accounts_after payload _
  talk v hv past _ := by
    obtain ⟨earlier, later, hsplit⟩ := List.append_of_mem hv
    rw [h.reached earlier v later hsplit, ← RunState.after_append]
    exact RunState.conversation_after _ _
  lastTalk := by
    rw [h.last]
    exact RunState.conversation_after _ _

/-- **Every state accounts for its history**: the one that a history from an empty state leads to,
and every one of a run that begins there. -/
theorem history_accounts (payload : Json) (ops : List Operation) :
    Accounts payload ops (RunState.after { payload } ops) ∧
    ∀ {σ : Type} (c : Frame σ) (world : σ) {start : Node}, c.graph.startNode? = some start →
      ∃ r record stays did,
        RecordedRun c start (RunState.after { payload } ops) world r record stays ∧
        AccountedRun c.recorded payload ops stays did r.state := by
  refine ⟨accounts_after payload ops, fun c world start hstart => ?_⟩
  obtain ⟨r, record, stays, hrun⟩ :=
    exists_recordedRun hstart (RunState.after { payload } ops) world
  obtain ⟨s, hcourse, hstate, -⟩ := hrun.course
  obtain ⟨did, hdid⟩ := Classical.skolem.mp (Stay.exists_did c.recorded)
  have hchronicle : Chronicle c.recorded did (RunState.after { payload } ops) stays r.state := by
    rw [hstate]
    exact .of_course hcourse hdid
  exact ⟨r, record, stays, did, hrun, hchronicle.accounted hdid⟩

/-- Writes of which one fails, and fragments of which two have one priority. -/
def remarks : List Operation :=
  [.setVar "user.name" (.string "Ada"), .setVar "." .null,
    .pushContext ⟨.system, "b", 0, none, false⟩, .pushContext ⟨.system, "a", 5, none, false⟩,
    .pushContext ⟨.system, "c", 0, none, false⟩, .replaceVars (.string "x")]

example : (RunState.after {} remarks).generation = 2 ∧
    (RunState.after {} remarks).context.map (·.text) = ["a", "b", "c"] := by
  decide +kernel

theorem assistant_accounted : ∃ start, assistant.startNode? = some start ∧
    ∃ r record stays did,
      RecordedRun assistant.rehearsal start (RunState.after {} remarks) {} r record stays ∧
      AccountedRun assistant.rehearsal.recorded .null remarks stays did r.state :=
  ⟨⟨"start", .start, .initial .start⟩, rfl,
    (history_accounts .null remarks).2 assistant.rehearsal {} rfl⟩

end Workgraph
