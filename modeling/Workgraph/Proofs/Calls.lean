import Workgraph.Proofs.Accounts

/-!
# What tool calls leave behind

A call of a tool may be refused, may fail, or may be interrupted while a knowledge store is
searched. What it writes to the state, it writes when nothing of this can happen any more.

* `Tools.IsRefused` is a call that failed, or whose result tells the model what was wrong.
* `CallEffect` has a rule for every way in which a call may go, with what it leaves behind;
  `callTool_effect` goes through the providers.
* `StaysInLane` is what follows: a refused call leaves the state as it was, and each provider writes
  to its own part of the state only (`callTool_staysInLane`).
-/

namespace Workgraph

open Exec Tools

variable {σ : Type}

/-! ## 1. What providers write -/

/-- A call failed, or its result has an `error` that tells the model what was wrong. -/
def Tools.IsRefused : Except Fault Json → Prop
  | .error _ => True
  | .ok result => (result.member? "error").isSome = true

theorem Tools.isRefused_refusal (message : String) : IsRefused (.ok (refusal message)) := rfl

/-- The result of a write. -/
def Tools.okay : Json := .ofMembers [("ok", .bool true)]

/-- The type of the provider that a tool belongs to, if it is still there. -/
def Graph.servingType? (g : Graph) (b : ToolBinding) : Option NodeType :=
  (g.findNode? b.providerId).map fun n => n.data.body.nodeType

/-- The result of a search. -/
def Tools.foundResult (passages : List Passage) : Json :=
  .ofMembers [("results", .ofList Passage.encode passages)]

/-- The state with some fragments put into the context, one by one. -/
def RunState.pushAll (s : RunState) (fs : List Fragment) : RunState := fs.foldl pushContext s

/-- **What a call of a tool with some arguments leaves behind**, by the type of its provider and by
its result. -/
inductive CallEffect (providerId : String) (args : Json) (s s' : Session σ) :
    Option NodeType → Except Fault Json → Prop where
  /-- The call failed, or was refused. -/
  | refused {type : Option NodeType} {x : Except Fault Json} (hx : IsRefused x)
      (state : s'.state = s.state) : CallEffect providerId args s s' type x
  /-- One of some choices was drawn. -/
  | drawn {result : Json} (state : s'.state = s.state) :
      CallEffect providerId args s s' (some .randomizer) (.ok result)
  /-- A document was read. -/
  | opened {result : Json} (state : s'.state = s.state) :
      CallEffect providerId args s s' (some .documentReader) (.ok result)
  /-- A variable was read. -/
  | got {result : Json} (action : textArgument? args "action" = some "get")
      (state : s'.state = s.state) :
      CallEffect providerId args s s' (some .globalState) (.ok result)
  /-- A variable was written, and everything remembered was forgotten. -/
  | wrote {vars : Json}
      (state : s'.state = { s.state with vars, generation := s.state.generation + 1 })
      (memos : s'.resolver.memos = []) :
      CallEffect providerId args s s' (some .globalState) (.ok okay)
  /-- Passages were found, and each of them was put into the context. -/
  | found {passages : List Passage} {priority : Int}
      (state : s'.state = s.state.pushAll (passages.map (Passage.fragment · priority providerId))) :
      CallEffect providerId args s s' (some .retrieval) (.ok (foundResult passages))

/-! ## 2. Providers -/

theorem RunState.setVar_eq_ok {s s' : RunState} {path : String} {v : Json}
    (h : s.setVar path v = .ok s') :
    ∃ vars, s' = { s with vars, generation := s.generation + 1 } := by
  unfold setVar at h
  cases hpath : s.vars.setPath path v with
  | error f =>
    rw [hpath] at h
    cases h
  | ok vars =>
    rw [hpath] at h
    cases h
    exact ⟨vars, rfl⟩

/-- What a call of the tool for variables amounts to. -/
theorem GlobalStateBody.call_cases (b : GlobalStateBody) (args : Json) (s : RunState) :
    (∃ message, b.call args s = (refusal message, none)) ∨
    (textArgument? args "action" = some "get" ∧ ∃ result, b.call args s = (result, none)) ∨
    ∃ vars, b.call args s = (okay, some { s with vars, generation := s.generation + 1 }) := by
  unfold call
  split
  · exact .inl ⟨_, rfl⟩
  · dsimp only
    split
    · next haction => exact .inr (.inl ⟨haction, _, rfl⟩)
    · split
      · split
        · next hset =>
          obtain ⟨vars, rfl⟩ := RunState.setVar_eq_ok hset
          exact .inr (.inr ⟨vars, rfl⟩)
        · exact .inl ⟨_, rfl⟩
      · exact .inl ⟨_, rfl⟩
    · exact .inl ⟨_, rfl⟩

namespace Exec

variable (c : Frame σ) (providerId : String) (args : Json) (s : Session σ)

theorem draw_effect (b : RandomizerBody) :
    CallEffect providerId args s (settle (draw c b) s).2 (some .randomizer)
      (settle (draw c b) s).1 := by
  unfold draw
  split
  · exact .refused (isRefused_refusal _) rfl
  · exact .drawn rfl

theorem useState_effect (b : GlobalStateBody) :
    CallEffect providerId args s (settle (useState b args) s).2 (some .globalState)
      (settle (useState b args) s).1 := by
  have hstate : settle (state : Exec σ RunState) s = (.ok s.state, s) := rfl
  unfold useState
  rw [settle_bind_of_ok hstate]
  rcases b.call_cases args s.state with ⟨message, hcall⟩ | ⟨haction, result, hcall⟩ | ⟨vars, hcall⟩
  · rw [hcall]
    exact .refused (isRefused_refusal _) rfl
  · rw [hcall]
    exact .got haction rfl
  · rw [hcall]
    exact .wrote rfl rfl

/-- A service that is asked while the run is not cancelled answers, or nothing but the world is
different. -/
theorem settle_checkedAwait {α β : Type} (service : σ → Arrival α × σ) (k : α → Exec σ β) :
    (∃ f w, settle (checkCancelled c >>= fun _ => await service >>= k) s =
      (.error f, { s with world := w })) ∨
    ∃ a w, settle (checkCancelled c >>= fun _ => await service >>= k) s =
      settle (k a) { s with world := w } := by
  have hcheck := settle_checkCancelled c s
  cases hcancelled : c.host.cancelled s.world with
  | true =>
    rw [hcancelled, if_pos rfl] at hcheck
    exact .inl ⟨_, s.world, settle_bind_of_error hcheck⟩
  | false =>
    rw [hcancelled, if_neg Bool.false_ne_true] at hcheck
    rw [settle_bind_of_ok hcheck]
    have hawait := settle_await service s
    cases hanswer : (service s.world).1.result with
    | error f =>
      rw [hanswer] at hawait
      exact .inl ⟨_, _, settle_bind_of_error hawait⟩
    | ok a =>
      rw [hanswer] at hawait
      exact .inr ⟨a, _, settle_bind_of_ok hawait⟩

/-- What follows when a search is answered: the passages are put into the context, and the model is
told of them. -/
def putFound (passages : List Passage) : Exec σ Json := do
  let priority := c.settings.context.fragmentPriority
  changeState fun s => passages.foldl (fun s p => s.pushContext (p.fragment priority providerId)) s
  return foundResult passages

theorem search_eq {b : RetrievalBody} {retrieve : Search → σ → Arrival (List Passage) × σ}
    (hqueries : b.queries args ≠ []) (hretrieve : c.host.retrieval = some retrieve) :
    search c providerId b args = checkCancelled c >>= fun _ =>
      await (retrieve (b.search (b.queries args))) >>= putFound c providerId := by
  unfold search
  split
  · next hnone => exact absurd hnone hqueries
  · rw [hretrieve]
    rfl

theorem putFound_effect (passages : List Passage) (w : σ) :
    CallEffect providerId args s (settle (putFound c providerId passages) { s with world := w }).2
      (some .retrieval) (settle (putFound c providerId passages) { s with world := w }).1 := by
  have hpush : s.state.pushAll
      (passages.map (Passage.fragment · c.settings.context.fragmentPriority providerId)) =
      passages.foldl (fun s p =>
        s.pushContext (p.fragment c.settings.context.fragmentPriority providerId)) s.state :=
    List.foldl_map
  exact .found hpush.symm

/-- A search can fail until it is answered. -/
theorem search_effect (b : RetrievalBody) :
    CallEffect providerId args s (settle (search c providerId b args) s).2 (some .retrieval)
      (settle (search c providerId b args) s).1 := by
  by_cases hqueries : b.queries args = []
  · unfold search
    rw [hqueries]
    exact .refused (isRefused_refusal _) rfl
  · cases hretrieve : c.host.retrieval with
    | none =>
      unfold search
      rw [hretrieve]
      split
      · exact absurd ‹_› hqueries
      · exact .refused trivial rfl
    | some retrieve =>
      rw [search_eq c providerId args hqueries hretrieve]
      rcases settle_checkedAwait c s (retrieve (b.search (b.queries args)))
        (putFound c providerId) with ⟨f, w, hfailed⟩ | ⟨passages, w, hanswered⟩
      · rw [hfailed]
        exact .refused trivial rfl
      · rw [hanswered]
        exact putFound_effect c providerId args s passages w

/-- **A call goes one of the ways** that its provider has. -/
theorem callTool_effect (b : ToolBinding) :
    CallEffect b.providerId args s (settle (callTool c b args) s).2 (c.graph.servingType? b)
      (settle (callTool c b args) s).1 := by
  unfold callTool Graph.servingType?
  cases hn : c.graph.findNode? b.providerId with
  | none => exact .refused (isRefused_refusal _) rfl
  | some n =>
    obtain ⟨id, type, title, label, muted, body⟩ := n
    cases body with
    | randomizer d => exact draw_effect c _ args s d
    | documentReader d => exact .opened rfl
    | globalState d => exact useState_effect _ args s d
    | retrieval d =>
      obtain rfl := Graph.findNode?_id hn
      exact search_effect c _ args s d
    | _ => exact .refused (isRefused_refusal _) rfl

end Exec

/-! ## 3. The lanes of the providers -/

theorem Fragment.sublist_insert (f : Fragment) : ∀ l : List Fragment, l.Sublist (f.insert l)
  | [] => List.nil_sublist _
  | g :: gs => by
    unfold insert
    split
    · exact List.sublist_cons_self _ _
    · exact (f.sublist_insert gs).cons_cons g

/-- Fragments are inserted among those that are there, which stay in their order. -/
theorem RunState.pushAll_cases (fs : List Fragment) (s : RunState) :
    ∃ context, s.pushAll fs = { s with context } ∧ s.context.Sublist context ∧
      context.Perm (s.context ++ fs) := by
  induction fs generalizing s with
  | nil => exact ⟨s.context, rfl, .refl _, by rw [List.append_nil]⟩
  | cons f fs ih =>
    obtain ⟨context, hstate, hsub, hperm⟩ := ih (s.pushContext f)
    refine ⟨context, hstate, (f.sublist_insert s.context).trans hsub, hperm.trans ?_⟩
    have hinsert : ((s.pushContext f).context ++ fs).Perm (f :: s.context ++ fs) :=
      (f.insert_perm s.context).append_right fs
    exact hinsert.trans List.perm_middle.symm

/-- **A call is atomic and stays in its lane**: a call with some arguments of a tool of a provider
of some type, in a session `s`, which gives `x` and leaves the session `s'`. -/
structure StaysInLane (providerId : String) (type : Option NodeType) (args : Json) (s : Session σ)
    (x : Except Fault Json) (s' : Session σ) : Prop where
  /-- A call that fails or is refused leaves the state as it was. -/
  atomic : IsRefused x → s'.state = s.state
  /-- To draw or to read a document changes nothing. -/
  reads : type = some .randomizer ∨ type = some .documentReader → s'.state = s.state
  /-- The tool for variables changes these and their generation at most. -/
  writes : type = some .globalState → ∃ vars generation,
    s'.state = { s.state with vars, generation }
  /-- When it has written, nothing is remembered. -/
  written : type = some .globalState → textArgument? args "action" = some "set" → ¬ IsRefused x →
    s'.resolver.memos = [] ∧ s'.state.generation = s.state.generation + 1
  /-- A search inserts fragments into the context, which are marked as found by its provider. -/
  inserts : type = some .retrieval → ∃ fs context,
    (∀ f ∈ fs, f.synthesized = true ∧ f.sourceNodeId = some providerId) ∧
    s.state.context.Sublist context ∧ context.Perm (s.state.context ++ fs) ∧
    s'.state = { s.state with context }
  /-- These are the passages that the model is told of. -/
  found : type = some .retrieval → ¬ IsRefused x → ∃ passages priority,
    x = .ok (foundResult passages) ∧
    s'.state = s.state.pushAll (passages.map (Passage.fragment · priority providerId))
  /-- Where there is no provider, the call is refused. -/
  strange : (∀ t, type = some t → t.isToolProvider = false) → IsRefused x
  /-- No call changes the payload, the conversation or an output. -/
  kept : s'.state.payload = s.state.payload ∧ s'.state.conversation = s.state.conversation ∧
    s'.state.outputs = s.state.outputs

/-- Each way in which a call may go stays in the lane. -/
theorem CallEffect.staysInLane {providerId : String} {args : Json} {s s' : Session σ}
    {type : Option NodeType} {x : Except Fault Json}
    (h : CallEffect providerId args s s' type x) : StaysInLane providerId type args s x s' where
  atomic := by
    intro hx
    cases h with
    | wrote => exact absurd hx Bool.false_ne_true
    | found => exact absurd hx Bool.false_ne_true
    | _ => assumption
  reads := by
    intro htype
    cases h with
    | wrote => simp at htype
    | found => simp at htype
    | _ => assumption
  writes := by
    intro htype
    cases h with
    | refused _ hstate => exact ⟨_, _, hstate⟩
    | got _ hstate => exact ⟨_, _, hstate⟩
    | wrote hstate _ => exact ⟨_, _, hstate⟩
    | _ => cases htype
  written := by
    intro htype haction hx
    cases h with
    | refused hrefused _ => exact absurd hrefused hx
    | got hget _ =>
      rw [hget] at haction
      simp at haction
    | wrote hstate hmemos => exact ⟨hmemos, by rw [hstate]⟩
    | _ => cases htype
  inserts := by
    intro htype
    cases h with
    | refused _ hstate =>
      exact ⟨[], _, fun _ hf => (nomatch hf), .refl _, by rw [List.append_nil], hstate⟩
    | @found passages priority hstate =>
      obtain ⟨context, hpush, hsub, hperm⟩ := RunState.pushAll_cases
        (passages.map (Passage.fragment · priority providerId)) s.state
      refine ⟨_, context, fun f hf => ?_, hsub, hperm, hstate.trans hpush⟩
      obtain ⟨p, -, rfl⟩ := List.mem_map.mp hf
      exact ⟨rfl, rfl⟩
    | _ => cases htype
  found := by
    intro htype hx
    cases h with
    | refused hrefused => exact absurd hrefused hx
    | found hstate => exact ⟨_, _, rfl, hstate⟩
    | _ => cases htype
  strange := by
    intro htype
    cases h with
    | refused hrefused => exact hrefused
    | _ => cases htype _ rfl
  kept := by
    cases h with
    | refused _ hstate | got _ hstate =>
      rw [hstate]
      exact ⟨rfl, rfl, rfl⟩
    | drawn hstate | opened hstate | wrote hstate _ =>
      rw [hstate]
      exact ⟨rfl, rfl, rfl⟩
    | found hstate =>
      obtain ⟨context, hpush, -, -⟩ := RunState.pushAll_cases _ s.state
      rw [hstate, hpush]
      exact ⟨rfl, rfl, rfl⟩

theorem callTool_staysInLane (c : Frame σ) (b : ToolBinding) (args : Json) (s : Session σ) :
    StaysInLane b.providerId (c.graph.servingType? b) args s (settle (callTool c b args) s).1
      (settle (callTool c b args) s).2 :=
  (callTool_effect c args s b).staysInLane

end Workgraph
