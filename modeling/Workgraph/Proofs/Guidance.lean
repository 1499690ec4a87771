import Workgraph.Proofs.Calls
import Workgraph.Proofs.Gathering
import Workgraph.Proofs.Hearing

/-!
# Guidance in the context

A retrieval provider guides the model by a fragment of the context. Every completion node that uses
the provider sees to it that the fragment is there, however often it is executed. This file counts
the copies along a run.

* `RunState.guided` adds a fragment only where there is none (`count_guided_le`, `mem_guided`);
  tools add fragments that they found, which are of another kind (`Session.OnlyFound`).
* `ContextEffect` has a rule for each way in which a node can treat the context; the only way to
  add a second copy is a node that adds the very fragment itself (`Node.authored?`).
* `Linked.invariant` is the induction over the stays of a run.
* `GuidanceKept` is the account of a run, and `runGraph_guidanceKept` says that it holds of all.
  `ghostwritten_guidance` shows that a second node under the id of a provider can add a copy.
-/

namespace Workgraph

open Exec Tools

variable {σ : Type}

/-! ## 1. Copies of a fragment -/

theorem Fragment.count_insert (f g : Fragment) (l : List Fragment) :
    (g.insert l).count f = l.count f + if g = f then 1 else 0 := by
  rw [(g.insert_perm l).count_eq f, List.count_cons]
  simp only [beq_iff_eq]

namespace RunState

variable {f : Fragment}

theorem guided_cons (g : Fragment) (fs : List Fragment) (s : RunState) :
    s.guided (g :: fs) = guided fs (if g ∈ s.context then s else s.pushContext g) := rfl

/-- Guidance is put among the fragments that are there. -/
theorem sublist_guided (fs : List Fragment) (s : RunState) :
    s.context.Sublist (s.guided fs).context := by
  induction fs generalizing s with
  | nil => exact .refl _
  | cons g fs ih =>
    rw [guided_cons]
    split
    · exact ih s
    · exact (g.sublist_insert s.context).trans (ih (s.pushContext g))

/-- It adds no second copy. -/
theorem count_guided_le (f : Fragment) (fs : List Fragment) (s : RunState) :
    (s.guided fs).context.count f ≤ max 1 (s.context.count f) := by
  induction fs generalizing s with
  | nil => exact Nat.le_max_right _ _
  | cons g fs ih =>
    rw [guided_cons]
    split
    · exact ih s
    · next hnew =>
      have hpush : (s.pushContext g).context.count f = s.context.count f + if g = f then 1 else 0 :=
        Fragment.count_insert f g s.context
      have hrest := ih (s.pushContext g)
      by_cases hg : g = f
      · have hnone : s.context.count f = 0 := List.count_eq_zero.mpr (hg ▸ hnew)
        rw [hpush, if_pos hg] at hrest
        omega
      · rwa [hpush, if_neg hg, Nat.add_zero] at hrest

/-- Afterwards it is there. -/
theorem mem_guided {fs : List Fragment} (hf : f ∈ fs) (s : RunState) :
    f ∈ (s.guided fs).context := by
  induction fs generalizing s with
  | nil => cases hf
  | cons g fs ih =>
    rcases List.mem_cons.mp hf with rfl | hf
    · rw [guided_cons]
      refine (sublist_guided fs _).mem ?_
      split
      · assumption
      · exact (f.insert_perm s.context).mem_iff.mpr List.mem_cons_self
    · exact ih hf _

end RunState

/-! ## 2. What tools add -/

/-- The context has grown, by fragments that tools found only. -/
def Session.OnlyFound (s s' : Session σ) : Prop :=
  s.state.context.Sublist s'.state.context ∧
    ∀ f : Fragment, f.synthesized = false → s'.state.context.count f = s.state.context.count f

theorem Session.onlyFound_of_context {s s' : Session σ} (h : s'.state.context = s.state.context) :
    s.OnlyFound s' := by
  unfold OnlyFound
  rw [h]
  exact ⟨.refl _, fun _ _ => rfl⟩

theorem Frame.admits_onlyFound (c : Frame σ) : c.Admits Session.OnlyFound where
  refl _ := Session.onlyFound_of_context rfl
  trans h h' := ⟨h.1.trans h'.1, fun f hf => (h'.2 f hf).trans (h.2 f hf)⟩
  resolver _ _ := Session.onlyFound_of_context rfl
  world _ _ := Session.onlyFound_of_context rfl

theorem CallEffect.onlyFound {providerId : String} {args : Json} {s s' : Session σ}
    {type : Option NodeType} {x : Except Fault Json}
    (h : CallEffect providerId args s s' type x) : s.OnlyFound s' := by
  cases h with
  | refused _ hstate | got _ hstate => exact Session.onlyFound_of_context (by rw [hstate])
  | drawn hstate | opened hstate | wrote hstate _ =>
    exact Session.onlyFound_of_context (by rw [hstate])
  | found hstate =>
    obtain ⟨context, hpush, hsub, hperm⟩ := RunState.pushAll_cases _ s.state
    unfold Session.OnlyFound
    rw [hstate, hpush]
    refine ⟨hsub, fun f hf => ?_⟩
    rw [hperm.count_eq f, List.count_append, Nat.add_eq_left, List.count_eq_zero]
    intro hmem
    obtain ⟨p, -, rfl⟩ := List.mem_map.mp hmem
    cases hf

namespace Exec

variable (c : Frame σ)

theorem answerCalls_onlyFound (nodeId : String) (tools : ToolSet) (calls : List ToolCall) :
    Keeps Session.OnlyFound (answerCalls c nodeId tools calls) := by
  have h := c.admits_onlyFound
  have hcall (call : ToolCall) : Keeps Session.OnlyFound (answerCall c nodeId tools call) := by
    refine .bind h (.of_follows h fun _ => .checkCancelled (h.accord "")) fun _ => ?_
    refine .bind h (.trace h _) fun _ => ?_
    split
    · exact .bind h (fun s => (callTool_effect c _ s _).onlyFound) fun _ => .pure h _
    · exact .pure h _
  induction calls with
  | nil => exact .pure h _
  | cons call calls ih => exact .bind h (hcall call) fun _ => .bind h ih fun _ => .pure h _

theorem rounds_onlyFound (x : Exchange σ) (hservice : c.host.completion = some x.complete)
    (left : Nat) (messages : List Message) (usage : Option Usage) :
    Keeps Session.OnlyFound (rounds c x left messages usage) := by
  intro s
  have h := c.admits_onlyFound
  obtain ⟨rs, o, hheard, -⟩ := rounds_heard x left
    (show settle (rounds c x left messages usage) s = (_, _) from rfl)
  exact hheard.within h.trans
    (askModel_keeps h (fun _ => Session.onlyFound_of_context rfl) hservice)
    (answerCalls_onlyFound c x.nodeId x.tools)

/-- After its tools are collected, only what these find is added. -/
theorem consult_onlyFound {service : CompletionRequest → σ → Arrival Reply × σ}
    (hservice : c.host.completion = some service) (nodeId : String) (b : CompletionBody)
    (tools : ToolSet) : Keeps Session.OnlyFound (consult c nodeId b service tools) := by
  have h := c.admits_onlyFound
  refine .bind h (fun s => h.refl s) fun s => ?_
  refine .bind h (rounds_onlyFound c ⟨nodeId, b, tools, service⟩ hservice _ _ _) fun ending => ?_
  refine .bind h (fun s => Session.onlyFound_of_context rfl) fun _ => ?_
  exact .of_follows h fun _ => reportUsage_follows (h.accord nodeId) _ _

end Exec

/-! ## 3. What nodes do to the context -/

/-- The fragment that a node adds itself. -/
def Node.authored? (n : Node) (settings : ContextSettings) : Option Fragment :=
  match n.data.body with
  | .contextMessage b =>
    if n.data.muted || Text.isAllBlank b.text then none
    else some { role := b.role, text := b.text
                priority := b.priority.getD settings.fragmentPriority, sourceNodeId := some n.id }
  | _ => none

/-- A node that asks a model has collected its tools. -/
structure Node.Gathers (n : Node) (c : Frame σ) (s : Session σ) (tools : ToolSet) : Prop where
  asks : ∃ b, n.data.body = .completion b
  unmuted : n.data.muted = false
  supplied : ∃ service, c.host.completion = some service
  collected : (collect c.engine c.graph s.state c.settings.context n.id s.resolver).1 = .ok tools

/-- **What a node does to the context** when it is executed. -/
inductive ContextEffect (c : Frame σ) (n : Node) (s s' : Session σ) : Prop where
  | kept (same : s'.state.context = s.state.context)
  /-- It adds a fragment of its own. -/
  | added {f : Fragment} (adds : n.authored? c.settings.context = some f)
      (context : s'.state.context = f.insert s.state.context)
  /-- It has the guidance of its tools added, then the tools add what they find. -/
  | guided {tools : ToolSet} {t : Session σ} (gathers : n.Gathers c s tools)
      (guidance : t.state.context = (s.state.guided tools.context).context) (found : t.OnlyFound s')

/-- Only two types of nodes put fragments into the context. -/
theorem NodeBody.pushed?_of_writes {c : Frame σ} {nodeId : String} {b : NodeBody} {op : Operation}
    (hauthors : ∀ b', b ≠ .contextMessage b') (hasks : ∀ b', b ≠ .completion b')
    (h : b.Writes c nodeId op) : op.pushed? = none := by
  cases op with
  | pushContext f =>
    cases b with
    | contextMessage b => exact absurd rfl (hauthors b)
    | completion b => exact absurd rfl (hasks b)
    | _ => exact h.elim
  | _ => rfl

/-- The context stays as it is. -/
def Session.SameContext (s s' : Session σ) : Prop := s'.state.context = s.state.context

theorem Frame.admits_sameContext (c : Frame σ) : c.Admits Session.SameContext where
  refl _ := rfl
  trans h h' := h'.trans h
  resolver _ _ := rfl
  world _ _ := rfl

theorem allows_sameContext {writes : Operation → Prop} (h : ∀ op, writes op → op.pushed? = none) :
    Allows (Session.SameContext (σ := σ)) writes := by
  intro op hop s
  unfold Session.SameContext Session.write
  rw [op.write_context, h op hop]

namespace Exec

variable {c : Frame σ} {n : Node}

/-- When tools are collected, their guidance is added first. -/
theorem execute_guided {s : Session σ} {tools : ToolSet} (h : n.Gathers c s tools) :
    ∃ t : Session σ, t.state.context = (s.state.guided tools.context).context ∧
      t.OnlyFound (settle (execute c n) s).2 := by
  obtain ⟨b, hbody⟩ := h.asks
  obtain ⟨service, hservice⟩ := h.supplied
  obtain ⟨t, hgather, -, hstate⟩ := settle_gatherTools (c := c) n.id (traced c _ s)
  rw [settle_execute h.unmuted, hbody, settle_perform_completion, complete_eq hservice,
    settle_bind_of_ok (hgather.trans (congrArg (·, t) h.collected))]
  exact ⟨t, congrArg RunState.context (hstate tools h.collected),
    consult_onlyFound c hservice n.id b tools t⟩

/-- A completion node that collects no tools leaves the context alone. -/
theorem execute_unguided {b : CompletionBody} (hmuted : n.data.muted = false)
    (hbody : n.data.body = .completion b) {s : Session σ} (h : ∀ tools, ¬ n.Gathers c s tools) :
    (settle (execute c n) s).2.state.context = s.state.context := by
  rw [settle_execute hmuted, hbody, settle_perform_completion]
  cases hservice : c.host.completion with
  | none =>
    unfold complete
    rw [hservice]
    rfl
  | some service =>
    obtain ⟨t, hgather, hfailed, -⟩ := settle_gatherTools (c := c) n.id (traced c _ s)
    cases hcollect : (collect c.engine c.graph s.state c.settings.context n.id s.resolver).1 with
    | ok tools => exact absurd ⟨⟨b, hbody⟩, hmuted, ⟨service, hservice⟩, hcollect⟩ (h tools)
    | error f =>
      rw [complete_eq hservice,
        settle_bind_of_error (hgather.trans (congrArg (·, t) hcollect)), hfailed f hcollect]
      rfl

/-- A node with a fragment of its own adds it unless it is muted or has no text. -/
theorem execute_authored {b : ContextMessageBody} (hmuted : n.data.muted = false)
    (hbody : n.data.body = .contextMessage b) (s : Session σ) :
    ContextEffect c n s (settle (execute c n) s).2 := by
  have hperform : perform c n.id (.contextMessage b) =
      addFragment c n.id b >>= fun _ => Pure.pure {} := rfl
  rw [settle_execute hmuted, hbody, hperform]
  unfold addFragment
  split
  · exact .kept rfl
  · next htext =>
    refine .added (f := ⟨b.role, b.text, _, some n.id, false⟩) ?_ rfl
    unfold Node.authored?
    rw [hbody]
    exact if_neg (by rw [hmuted]; exact htext)

/-- **Every node treats the context in one of three ways**, whether it fails or not. -/
theorem execute_contextEffect (c : Frame σ) (n : Node) (s : Session σ) :
    ContextEffect c n s (settle (execute c n) s).2 := by
  cases hmuted : n.data.muted with
  | true =>
    rw [settle_execute_muted hmuted]
    exact .kept rfl
  | false =>
    by_cases hauthors : ∃ b, n.data.body = .contextMessage b
    · obtain ⟨b, hbody⟩ := hauthors
      exact execute_authored hmuted hbody s
    by_cases hasks : ∃ b, n.data.body = .completion b
    · obtain ⟨b, hbody⟩ := hasks
      by_cases hgathers : ∃ tools, n.Gathers c s tools
      · obtain ⟨tools, hgathers⟩ := hgathers
        obtain ⟨t, hguidance, hfound⟩ := execute_guided hgathers
        exact .guided hgathers hguidance hfound
      · exact .kept (execute_unguided hmuted hbody fun tools h => hgathers ⟨tools, h⟩)
    · have hallows := allows_sameContext (σ := σ) fun op (hop : n.data.body.Writes c n.id op) =>
        NodeBody.pushed?_of_writes (fun b hb => hauthors ⟨b, hb⟩) (fun b hb => hasks ⟨b, hb⟩) hop
      exact .kept (execute_keeps c.admits_sameContext (fun _ => rfl) hallows s)

end Exec

namespace ContextEffect

variable {c : Frame σ} {n : Node} {s s' : Session σ} (h : ContextEffect c n s s')

include h

/-- No fragment is lost. -/
theorem grows : s.state.context.Sublist s'.state.context := by
  cases h with
  | kept same => rw [same]
  | added _ context =>
    rw [context]
    exact Fragment.sublist_insert _ _
  | guided _ guidance found =>
    exact (RunState.sublist_guided _ s.state).trans (guidance ▸ found.1)

/-- A second copy of a fragment that is not found by tools is added only by a node whose own it
is. -/
theorem count_le {f : Fragment} (hf : f.synthesized = false) :
    s'.state.context.count f ≤ max 1 (s.state.context.count f) +
      if n.authored? c.settings.context = some f then 1 else 0 := by
  cases h with
  | kept same =>
    rw [same]
    omega
  | @added g adds context =>
    rw [context, Fragment.count_insert, adds]
    by_cases hg : g = f
    · rw [if_pos hg, if_pos (congrArg some hg)]
      omega
    · rw [if_neg hg]
      omega
  | @guided tools t _ guidance found =>
    have hguided := RunState.count_guided_le f tools.context s.state
    rw [found.2 f hf, guidance]
    omega

end ContextEffect

/-! ## 4. Stays -/

/-- The guidance of a provider is gathered with its tool. -/
theorem Tools.guidance_mem {e : ScriptEngine} {g : Graph} {s : RunState}
    {settings : ContextSettings} {consumer : String} {r : Resolver} {tools : ToolSet}
    (h : (collect e g s settings consumer r).1 = .ok tools) {t : ToolBinding}
    (ht : t ∈ tools.tools) {f : Fragment} (hf : t.guidance? g settings = some f) :
    f ∈ tools.context := by
  rw [collect_cases] at h
  have hadded : addAll settings (openProviders e g s consumer r).1 {} = tools := by
    split at h
    · cases h
    · exact Except.ok.inj h
  have hgathered : (addAll settings (openProviders e g s consumer r).1 {}).Gathered g settings
      (openProviders e g s consumer r).1 :=
    ToolSet.gathered_addAll fun _ hn => findNode?_of_mem_openAlong hn
  rw [hadded] at hgathered
  rw [hgathered.context]
  exact List.mem_filterMap.mpr ⟨t, ht, hf⟩

namespace Stay

/-- A stay at a node that asks a model and has the tool of a provider bound. -/
def Binds (c : Frame σ) (p : Node) (v : Stay σ) : Prop :=
  ∃ tools, v.node.Gathers c v.reached tools ∧
    ∃ t ∈ tools.tools, c.graph.findNode? t.providerId = some p

variable {c : Frame σ} {v : Stay σ} {p : Node} {f : Fragment} {tools : ToolSet}

theorem left_context (c : Frame σ) (v : Stay σ) :
    (v.left c).state.context = (v.work c).2.state.context := by
  cases h : v.answer c with
  | ok t => rw [v.left_of_ok h]; rfl
  | error f => rw [v.left_of_error h]

theorem contextEffect (c : Frame σ) (v : Stay σ) :
    ContextEffect c v.node v.reached (v.left c) := by
  have hwork := execute_contextEffect c v.node (entering c v.node v.reached)
  have hleft := v.left_context c
  cases hwork with
  | kept same => exact .kept (hleft.trans same)
  | added adds context => exact .added adds (hleft.trans context)
  | guided gathers guidance found =>
    refine .guided ⟨gathers.asks, gathers.unmuted, gathers.supplied, gathers.collected⟩ guidance ?_
    unfold Session.OnlyFound
    rw [hleft]
    exact found

/-- The guidance of a provider is there as soon as the tools are collected. -/
theorem Binds.mem_guided (h : v.Binds c p) (hf : p.guidance? c.settings.context = some f)
    (hgathers : v.node.Gathers c v.reached tools) :
    f ∈ (v.reached.state.guided tools.context).context := by
  obtain ⟨tools', hgathers', t, ht, hprovider⟩ := h
  obtain rfl : tools' = tools := Except.ok.inj (hgathers'.collected.symm.trans hgathers.collected)
  refine RunState.mem_guided (guidance_mem hgathers.collected ht ?_) v.reached.state
  unfold ToolBinding.guidance?
  rw [hprovider, Option.bind_some, hf]

/-- What is there when the tools are collected stays there. -/
theorem guided_sublist_left (hgathers : v.node.Gathers c v.reached tools) :
    (v.reached.state.guided tools.context).context.Sublist (v.left c).state.context := by
  have hentering : v.node.Gathers c (entering c v.node v.reached) tools :=
    ⟨hgathers.asks, hgathers.unmuted, hgathers.supplied, hgathers.collected⟩
  obtain ⟨t, hguidance, hgrows, -⟩ := execute_guided hentering
  rw [v.left_context c]
  exact hguidance ▸ hgrows

end Stay

/-- Stays that follow one another lead from one session to another. -/
inductive Linked (c : Frame σ) : Session σ → List (Stay σ) → Session σ → Prop where
  | nil (s : Session σ) : Linked c s [] s
  | cons {v : Stay σ} {vs : List (Stay σ)} {s : Session σ} (rest : Linked c (v.left c) vs s) :
      Linked c v.reached (v :: vs) s

theorem Course.linked {c : Frame σ} {left : Nat} {v : Stay σ} {vs : List (Stay σ)} {o : RunOutcome}
    {s : Session σ} (h : Course c left v vs o s) : Linked c v.reached vs s := by
  induction h with
  | cancelled | exhausted => exact .nil _
  | failed | interrupted | ended => exact .cons (.nil _)
  | passes _ _ _ _ _ ih => exact .cons ih

/-- **What each stay preserves holds along all of them**: where each of them begins, and in the
end. It may depend on the stays that went before. -/
theorem Linked.invariant {c : Frame σ} {P : List (Stay σ) → Session σ → Prop}
    (hstep : ∀ past v, P past v.reached → P (past ++ [v]) (v.left c)) {s s' : Session σ}
    {vs : List (Stay σ)} (h : Linked c s vs s') : ∀ {past : List (Stay σ)}, P past s →
    (∀ earlier v later, vs = earlier ++ v :: later → P (past ++ earlier) v.reached) ∧
      P (past ++ vs) s' := by
  induction h with
  | nil =>
    intro past hpast
    rw [List.append_nil]
    exact ⟨fun earlier v later hvs => absurd hvs (by simp), hpast⟩
  | @cons v vs s rest ih =>
    intro past hpast
    obtain ⟨hway, hend⟩ := ih (hstep past v hpast)
    rw [← List.append_cons] at hend
    refine ⟨fun earlier w later hvs => ?_, hend⟩
    cases earlier with
    | nil =>
      obtain ⟨rfl, -⟩ := List.cons_eq_cons.mp hvs
      rwa [List.append_nil]
    | cons u earlier =>
      obtain ⟨rfl, hlater⟩ := List.cons_eq_cons.mp hvs
      rw [List.append_cons]
      exact hway earlier w later hlater

/-! ## 5. Runs -/

theorem Node.guidance?_eq_some {p : Node} {settings : ContextSettings} {f : Fragment}
    (h : p.guidance? settings = some f) :
    f.synthesized = false ∧ f.sourceNodeId = some p.id ∧ ∃ b, p.data.body = .retrieval b := by
  unfold Node.guidance? at h
  split at h
  · next b hbody =>
    cases h
    exact ⟨rfl, rfl, b, hbody⟩
  · cases h

theorem Node.authored?_eq_some {n : Node} {settings : ContextSettings} {f : Fragment}
    (h : n.authored? settings = some f) :
    f.sourceNodeId = some n.id ∧ ∃ b, n.data.body = .contextMessage b := by
  unfold Node.authored? at h
  split at h
  · next b hbody =>
    split at h
    · cases h
    · cases h
      exact ⟨rfl, b, hbody⟩
  · cases h

/-- How many of some stays added a fragment of their own that is the given one. -/
def Stay.authored (c : Frame σ) (f : Fragment) (vs : List (Stay σ)) : Nat :=
  vs.countP fun v => v.node.authored? c.settings.context = some f

/-- **The guidance of a provider in a context**, after some stays of a run that began with so many
copies of it. -/
structure Guarded (c : Frame σ) (p : Node) (f : Fragment) (copies : Nat) (past : List (Stay σ))
    (s : RunState) : Prop where
  /-- There is one copy at most, or as many as in the beginning, besides those that nodes added as
  their own. -/
  few : s.context.count f ≤ max 1 copies + Stay.authored c f past
  /-- There is a copy after a node had the provider bound. -/
  there : (∃ v ∈ past, v.Binds c p) → 1 ≤ s.context.count f

namespace Guarded

variable {c : Frame σ} {p : Node} {f : Fragment} {copies : Nat} {past : List (Stay σ)}
  {v : Stay σ}

theorem of_left (hf : p.guidance? c.settings.context = some f)
    (h : Guarded c p f copies past v.reached.state) :
    Guarded c p f copies (past ++ [v]) (v.left c).state where
  few := by
    have hcount := (v.contextEffect c).count_le (Node.guidance?_eq_some hf).1
    have hfew := h.few
    unfold Stay.authored at hfew ⊢
    rw [List.countP_append, List.countP_singleton]
    simp only [decide_eq_true_eq]
    omega
  there := by
    rintro ⟨w, hw, hbinds⟩
    rw [List.one_le_count_iff]
    rcases List.mem_append.mp hw with hw | hw
    · exact (v.contextEffect c).grows.mem (List.one_le_count_iff.mp (h.there ⟨w, hw, hbinds⟩))
    · obtain rfl := List.mem_singleton.mp hw
      obtain ⟨tools, hgathers, -⟩ := id hbinds
      exact (Stay.guided_sublist_left hgathers).mem (hbinds.mem_guided hf hgathers)

theorem of_gathered (hf : p.guidance? c.settings.context = some f)
    (h : Guarded c p f copies past v.reached.state) {tools : ToolSet}
    (hgathers : v.node.Gathers c v.reached tools) :
    Guarded c p f copies (past ++ [v]) (v.reached.state.guided tools.context) where
  few := by
    have hcount := RunState.count_guided_le f tools.context v.reached.state
    have hfew := h.few
    unfold Stay.authored at hfew ⊢
    rw [List.countP_append]
    omega
  there := by
    rintro ⟨w, hw, hbinds⟩
    rw [List.one_le_count_iff]
    rcases List.mem_append.mp hw with hw | hw
    · refine (RunState.sublist_guided tools.context v.reached.state).mem ?_
      exact List.one_le_count_iff.mp (h.there ⟨w, hw, hbinds⟩)
    · obtain rfl := List.mem_singleton.mp hw
      exact hbinds.mem_guided hf hgathers

end Guarded

/-- **The guidance of a provider along a run** that began with so many copies of it. -/
structure GuidanceKept (c : Frame σ) (p : Node) (f : Fragment) (copies : Nat)
    (stays : List (Stay σ)) (last : RunState) : Prop where
  /-- The bounds hold where a node is reached, -/
  reached : ∀ earlier v later, stays = earlier ++ v :: later →
    Guarded c p f copies earlier v.reached.state
  /-- where its tools are collected, -/
  gathered : ∀ earlier v later tools, stays = earlier ++ v :: later →
    v.node.Gathers c v.reached tools →
    Guarded c p f copies (earlier ++ [v]) (v.reached.state.guided tools.context)
  /-- where it is left, -/
  left : ∀ earlier v later, stays = earlier ++ v :: later →
    Guarded c p f copies (earlier ++ [v]) (v.left c).state
  /-- and in the end. -/
  last : Guarded c p f copies stays last
  /-- No node adds the guidance as its own if none but the provider has its id. -/
  alone : (∀ n ∈ c.graph.nodes, n.id = p.id → n = p) →
    ∀ past, past <+: stays → Stay.authored c f past = 0

theorem Graph.mem_of_next {g : Graph} {n m : Node} {t : Transition} {port : Option String}
    (h : g.next n t = (some m, port)) : m ∈ g.nodes := by
  unfold Graph.next at h
  split at h
  · cases h
  · split at h
    · obtain ⟨hthrough, -⟩ := Prod.mk.inj h
      obtain ⟨r, -, hfollow⟩ := List.exists_of_findSome?_eq_some hthrough
      exact mem_of_findNode? (Option.filter_eq_some_iff.mp hfollow).1
    · cases h

/-- A run stays in the graph. -/
theorem Course.mem_nodes {c : Frame σ} {left : Nat} {v : Stay σ} {vs : List (Stay σ)}
    {o : RunOutcome} {s : Session σ} (h : Course c left v vs o s) (hv : v.node ∈ c.graph.nodes) :
    ∀ w ∈ vs, w.node ∈ c.graph.nodes := by
  induction h with
  | cancelled | exhausted => exact fun w hw => absurd hw List.not_mem_nil
  | failed | interrupted | ended => exact List.forall_mem_singleton.mpr hv
  | passes _ _ _ next _ ih => exact List.forall_mem_cons.mpr ⟨hv, ih (Graph.mem_of_next next)⟩

theorem Course.guidanceKept {c : Frame σ} {left : Nat} {v : Stay σ} {vs : List (Stay σ)}
    {o : RunOutcome} {s : Session σ} (h : Course c left v vs o s) (hv : v.node ∈ c.graph.nodes)
    {p : Node} {f : Fragment} (hf : p.guidance? c.settings.context = some f) :
    GuidanceKept c p f (v.reached.state.context.count f) vs s.state := by
  have hfirst : Guarded c p f (v.reached.state.context.count f) [] v.reached.state :=
    ⟨Nat.le_max_right _ _, fun ⟨w, hw, _⟩ => absurd hw List.not_mem_nil⟩
  obtain ⟨hway, hend⟩ := Linked.invariant
    (P := fun past s => Guarded c p f (v.reached.state.context.count f) past s.state)
    (fun past w hw => hw.of_left hf) h.linked hfirst
  refine ⟨hway, fun earlier w later tools hvs hgathers => (hway earlier w later hvs).of_gathered hf
    hgathers, fun earlier w later hvs => (hway earlier w later hvs).of_left hf, hend, ?_⟩
  intro hunique past hpast
  refine List.countP_eq_zero.mpr fun w hw hauthored => ?_
  obtain ⟨hsource, b, hbody⟩ := Node.authored?_eq_some (of_decide_eq_true hauthored)
  obtain ⟨-, hprovider, b', hbody'⟩ := Node.guidance?_eq_some hf
  have hid : w.node.id = p.id := Option.some.inj (hsource.symm.trans hprovider)
  rw [hunique w.node (h.mem_nodes hv w (hpast.mem hw)) hid, hbody'] at hbody
  cases hbody

/-- **Guidance never piles up**, in any run from any state. -/
theorem runGraph_guidanceKept (c : Frame σ) {p : Node} {f : Fragment}
    (hf : p.guidance? c.settings.context = some f) {start : Node}
    (hstart : c.graph.startNode? = some start) (state : RunState) (world : σ) :
    ∃ r record stays, RecordedRun c start state world r record stays ∧
      GuidanceKept c.recorded p f (state.context.count f) stays r.state := by
  obtain ⟨r, record, stays, hrun⟩ := exists_recordedRun hstart state world
  obtain ⟨s, hcourse, hstate, -⟩ := hrun.course
  have hmem : start ∈ c.graph.nodes := List.mem_of_find?_eq_some hstart
  refine ⟨r, record, stays, hrun, ?_⟩
  rw [hstate]
  exact hcourse.guidanceKept hmem hf

/-- How the model is told to search when nobody says how. -/
def searchHint : Fragment :=
  { role := .system, text := defaultGuidance, priority := -100, sourceNodeId := some "search" }

theorem assistant_guidanceKept :
    (⟨"search", .retrieval, .initial .retrieval⟩ : Node).guidance?
      assistant.rehearsal.settings.context = some searchHint ∧
    assistant.rehearsal.graph.startNode? = some ⟨"start", .start, .initial .start⟩ ∧
    ∃ r record stays, RecordedRun assistant.rehearsal ⟨"start", .start, .initial .start⟩
        { context := [searchHint] } insistent r record stays ∧
      GuidanceKept assistant.rehearsal.recorded ⟨"search", .retrieval, .initial .retrieval⟩
        searchHint ([searchHint].count searchHint) stays r.state :=
  ⟨by decide +kernel, by decide +kernel, runGraph_guidanceKept assistant.rehearsal
    (by decide +kernel) (by decide +kernel) { context := [searchHint] } insistent⟩

/-- A knowledge store that asks for citations. -/
def citations : Node := ⟨"kb", .retrieval, .ofBody (.retrieval { guidance := "Cite." })⟩

/-- A start node under the id of the store, which adds the guidance of the store word for word. -/
def ghostwriter : Node :=
  ⟨"kb", .start, .ofBody (.contextMessage
    { role := .system, text := "Cite.", priority := some (-100) })⟩

def ghostwritten : Graph :=
  { nodes := [citations, ghostwriter, ⟨"ask", .completion, .initial .completion⟩,
      ⟨"end", .finish, .initial .finish⟩]
    edges := [{ id := "1", source := "kb", target := "ask" },
      { id := "2", source := "kb", sourcePort := some PortId.tools, target := "ask"
        targetPort := some PortId.tools },
      { id := "3", source := "ask", target := "end" }] }

/-- The guidance that the store gives, and that the ghostwriter adds. -/
def cited : Fragment :=
  { role := .system, text := "Cite.", priority := -100, sourceNodeId := some "kb" }

/-- The guidance is in the context when the run begins, -/
def ghostStart : Stay Rehearsal :=
  ⟨ghostwriter, .opening ghostwritten.rehearsal ghostwriter { context := [cited] }
    { model := [(false, .whole { content := "Hello" })] }⟩

/-- the model has the store to search, -/
def ghostAsk : Stay Rehearsal :=
  ⟨⟨"ask", .completion, .initial .completion⟩, ghostStart.left ghostwritten.rehearsal⟩

/-- and then the run is over. -/
def ghostEnd : Stay Rehearsal :=
  ⟨⟨"end", .finish, .initial .finish⟩, ghostAsk.left ghostwritten.rehearsal⟩

/-- The control goes on before the tools. -/
theorem ghostwritten_routes :
    ghostwritten.routes ghostwriter = (ghostwritten.edges.take 2).map (Graph.routeOf ghostwriter) :=
  List.mergeSort_of_pairwise (by decide +kernel)

theorem ghostwritten_course : Course ghostwritten.rehearsal 1000 ghostStart
    [ghostStart, ghostAsk, ghostEnd] (.completed (.endReached "end"))
    (ghostEnd.left ghostwritten.rehearsal) := by
  have hwrites : ghostStart.answer ghostwritten.rehearsal = .ok {} := by decide +kernel
  have hasks : ghostAsk.answer ghostwritten.rehearsal = .ok {} := by decide +kernel
  have hends : ghostEnd.answer ghostwritten.rehearsal = .ok { stop := true } := by decide +kernel
  have hstart : ghostwritten.next ghostwriter {} = (some ghostAsk.node, some PortId.output) := by
    unfold Graph.next Graph.through?
    rw [ghostwritten_routes]
    decide +kernel
  have hask : ghostwritten.next ghostAsk.node {} = (some ghostEnd.node, some PortId.output) := by
    decide +kernel
  exact .passes (by decide +kernel) hwrites (by decide +kernel) hstart <|
    .passes (by decide +kernel) hasks (by decide +kernel) hask <|
    .ended (by decide +kernel) hends (by decide +kernel) rfl

/-- Guidance that was there once can be there twice after a run in which its provider was bound. -/
theorem ghostwritten_guidance : ¬ ∀ (c : Frame Rehearsal) (state : RunState) (world w : Rehearsal)
    (r : RunResult) (p : Node) (f : Fragment), runGraph c state world = .ok (r, w) →
    p ∈ c.graph.nodes → p.guidance? c.settings.context = some f →
    r.state.context.count f ≤ max 1 (state.context.count f) := by
  intro h
  have hrun := ghostwritten_course.runGraph_eq (by decide +kernel)
  have hfew := h _ _ _ _ _ citations cited hrun List.mem_cons_self (by decide +kernel)
  exact absurd hfew (by decide +kernel)

end Workgraph
