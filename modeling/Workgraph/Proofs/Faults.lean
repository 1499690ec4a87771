import Workgraph.Run.Chain

/-!
# With which faults a node can fail

A step of a run fails where something in it throws. This file collects what can be thrown while a
node is executed, without looking at the session in which it happens.

* `Exec.FailsOnly` says that whatever a step fails with has a property. It goes through sequences of
  steps (`FailsOnly.bind`), so each step needs one lemma.
* `Host.Gives` says that a fault comes from an answer of the host, `ServiceFault` adds what waiting
  for the host fails with.
* `NodeFault` lists the faults of a node: those of services and scripts, those of its own settings,
  and the two of a graph that is wired wrongly. `execute_failsOnly` says that the list is complete.
* `message_eq_failed` and its likes read a fault off its message.
-/

namespace Workgraph

variable {σ : Type}

/-! ## 1. Steps and their faults -/

namespace Exec

variable {α β : Type} {P Q : Fault → Prop} {act : Exec σ α} {k : α → Exec σ β}

/-- Whatever a step fails with has a property. -/
def FailsOnly (P : Fault → Prop) (act : Exec σ α) : Prop := ∀ s f s', act s = .error f s' → P f

/-- A step can give a result. -/
def CanGive (act : Exec σ α) (a : α) : Prop := ∃ s s', act s = .ok a s'

namespace FailsOnly

theorem mono (h : FailsOnly P act) (himp : ∀ f, P f → Q f) : FailsOnly Q act :=
  fun s f s' he => himp f (h s f s' he)

theorem bind (h : FailsOnly P act) (hk : ∀ a, CanGive act a → FailsOnly P (k a)) :
    FailsOnly P (act >>= k) := by
  intro s f s' he
  replace he : EStateM.bind act k s = .error f s' := he
  unfold EStateM.bind at he
  cases hact : act s with
  | ok a s₁ =>
    rw [hact] at he
    exact hk a ⟨s, s₁, hact⟩ s₁ f s' he
  | error f₁ s₁ =>
    rw [hact] at he
    cases he
    exact h s f s' hact

theorem pure (a : α) : FailsOnly P (Pure.pure a : Exec σ α) := fun _ _ _ he => nomatch he

theorem throw {f : Fault} (h : P f) : FailsOnly P (MonadExcept.throw f : Exec σ α) := by
  intro s f' s' he
  cases he
  exact h

theorem ofExcept {x : Except Fault α} (h : ∀ f, x = .error f → P f) :
    FailsOnly P (ofExcept x : Exec σ α) := by
  cases x with
  | ok a => exact .pure a
  | error f => exact .throw (h f rfl)

theorem state : FailsOnly P (state : Exec σ RunState) := fun _ _ _ he => nomatch he

theorem changeState (f : RunState → RunState) : FailsOnly P (changeState f : Exec σ Unit) :=
  fun _ _ _ he => nomatch he

theorem changeWorld (f : σ → σ) : FailsOnly P (changeWorld f) := fun _ _ _ he => nomatch he

theorem ask (service : σ → α × σ) : FailsOnly P (ask service) := fun _ _ _ he => nomatch he

theorem forget : FailsOnly P (forget : Exec σ Unit) := fun _ _ _ he => nomatch he

theorem emit (c : Frame σ) (h : Happening) : FailsOnly P (emit c h) := .changeWorld _

theorem trace (c : Frame σ) (message : String) : FailsOnly P (trace c message) := .emit c _

theorem traceLogs (c : Frame σ) (lines : List String) : FailsOnly P (traceLogs c lines) := by
  induction lines with
  | nil => exact .pure ()
  | cons line lines ih => exact .bind (.trace c _) fun _ _ => ih

theorem get : FailsOnly P (get : Exec σ (Session σ)) := fun _ _ _ he => nomatch he

theorem set (s : Session σ) : FailsOnly P (set s : Exec σ Unit) := fun _ _ _ he => nomatch he

theorem checkCancelled (c : Frame σ) (h : P .cancelled) : FailsOnly P (checkCancelled c) := by
  refine .bind .get fun s _ => ?_
  split
  · exact .throw h
  · exact .pure ()

theorem read (c : Frame σ) (act : StateM Resolver α) : FailsOnly P (read c act) := by
  refine .bind .get fun s _ => ?_
  exact .bind (.set _) fun _ _ => .bind (.traceLogs c _) fun _ _ => .pure _

theorem script (c : Frame σ) (h : ∀ m, P (.script m)) (mode : ScriptMode) (source : String) :
    FailsOnly P (script c mode source) := by
  refine .bind .state fun s _ => .bind (.traceLogs c _) fun _ _ => .ofExcept fun f hf => ?_
  unfold ScriptOutcome.result at hf
  split at hf
  · cases hf
    exact h _
  · cases hf

theorem await {service : σ → Arrival α × σ} (hcancelled : P .cancelled)
    (h : ∀ w f, (service w).1 = .answered (.error f) → P f) : FailsOnly P (await service) := by
  refine .bind (.ask service) fun a ha => ?_
  obtain ⟨s, s', hs⟩ := ha
  cases hs
  split
  · exact .pure _
  · next f hf => exact .throw (h _ f hf)
  · exact .throw hcancelled

end FailsOnly

namespace CanGive

theorem of_bind {b : β} (h : CanGive (act >>= k) b) : ∃ a, CanGive act a ∧ CanGive (k a) b := by
  obtain ⟨s, s', hs⟩ := h
  replace hs : EStateM.bind act k s = .ok b s' := hs
  unfold EStateM.bind at hs
  cases hact : act s with
  | ok a s₁ =>
    rw [hact] at hs
    exact ⟨a, ⟨s, s₁, hact⟩, s₁, s', hs⟩
  | error f s₁ =>
    rw [hact] at hs
    cases hs

theorem of_pure {a b : α} (h : CanGive (pure a : Exec σ α) b) : b = a := by
  obtain ⟨s, s', hs⟩ := h
  cases hs
  rfl

theorem of_throw {f : Fault} {a : α} (h : CanGive (throw f : Exec σ α) a) : False := by
  obtain ⟨s, s', hs⟩ := h
  cases hs

theorem of_ofExcept {x : Except Fault α} {a : α} (h : CanGive (ofExcept x : Exec σ α) a) :
    x = .ok a := by
  cases x with
  | ok b => rw [of_pure h]
  | error f => exact (of_throw h).elim

/-- What is read on demand is read with some memory. -/
theorem of_read {c : Frame σ} {r : StateM Resolver α} {a : α} (h : CanGive (read c r) a) :
    ∃ memory, a = (r memory).1 := by
  obtain ⟨s, -, h⟩ := h.of_bind
  obtain ⟨_, -, h⟩ := h.of_bind
  obtain ⟨_, -, h⟩ := h.of_bind
  exact ⟨s.resolver, h.of_pure⟩

/-- What was waited for is an answer of the service. -/
theorem of_await {service : σ → Arrival α × σ} {a : α} (h : CanGive (await service) a) :
    ∃ w, (service w).1 = .answered (.ok a) := by
  obtain ⟨arrival, ⟨s, s', hs⟩, h⟩ := h.of_bind
  cases hs
  refine ⟨s.world, ?_⟩
  split at h
  · next b hb => rw [hb, h.of_pure]
  · exact h.of_throw.elim
  · exact h.of_throw.elim

end CanGive

end Exec

/-! ## 2. Faults of the host -/

/-- A fault that is in an answer of the host. -/
inductive Host.Gives (h : Host σ) : Fault → Prop where
  | completion {service : CompletionRequest → σ → Arrival Reply × σ} {request : CompletionRequest}
      {w : σ} {f : Fault} (supplied : h.completion = some service)
      (answer : (service request w).1 = .answered (.error f)) : Gives h f
  | chunk {service : CompletionRequest → σ → Arrival Reply × σ} {request : CompletionRequest}
      {w : σ} {items : List (Except Fault Chunk)} {closed : Bool} {f : Fault}
      (supplied : h.completion = some service)
      (answer : (service request w).1 = .answered (.ok (.pieces items closed)))
      (among : .error f ∈ items) : Gives h f
  | retrieval {service : Search → σ → Arrival (List Passage) × σ} {search : Search} {w : σ}
      {f : Fault} (supplied : h.retrieval = some service)
      (answer : (service search w).1 = .answered (.error f)) : Gives h f
  | usage {record : UsageRecord → σ → Except Fault Unit × σ} {u : UsageRecord} {w : σ} {f : Fault}
      (supplied : h.usage = some record) (answer : (record u w).1 = .error f) : Gives h f

/-- What asking the host can fail with. -/
inductive ServiceFault (h : Host σ) : Fault → Prop where
  | given {f : Fault} (gives : h.Gives f) : ServiceFault h f
  | cancelled : ServiceFault h .cancelled
  | missing (what : Collaborator) : ServiceFault h (.missing what)

namespace Exec

variable (c : Frame σ)

theorem takePieces_failsOnly (nodeId : String) (closed : Bool) :
    ∀ (items : List (Except Fault Chunk)) (r : CompletionResponse),
    (∀ f, .error f ∈ items → c.host.Gives f) →
    FailsOnly (ServiceFault c.host) (takePieces c nodeId closed items r) := by
  intro items
  induction items with
  | nil =>
    intro r _
    unfold takePieces
    split
    · refine .bind (.ask _) fun interrupted _ => ?_
      split
      · exact .throw .cancelled
      · exact .pure _
    · exact .bind (.changeWorld _) fun _ _ => .throw .cancelled
  | cons item items ih =>
    intro r h
    unfold takePieces
    refine .bind (.ask _) fun interrupted _ => ?_
    split
    · exact .throw .cancelled
    · refine .bind (.ofExcept fun f hf => .given (h f (hf ▸ List.mem_cons_self))) fun chunk _ => ?_
      have hrest : FailsOnly (ServiceFault c.host)
          (takePieces c nodeId closed items (r.add chunk)) :=
        ih _ fun f hf => h f (List.mem_cons_of_mem _ hf)
      dsimp only
      split
      · exact .bind (.emit c _) fun _ _ => hrest
      · exact hrest

theorem takeReply_failsOnly (nodeId : String) (reply : Reply)
    (h : ∀ items closed, reply = .pieces items closed → ∀ f, .error f ∈ items → c.host.Gives f) :
    FailsOnly (ServiceFault c.host) (takeReply c nodeId reply) := by
  cases reply with
  | whole r =>
    unfold takeReply
    dsimp only
    split
    · exact .bind (.emit c _) fun _ _ => .pure _
    · exact .pure _
  | pieces items closed => exact takePieces_failsOnly c nodeId closed items {} (h items closed rfl)

theorem search_failsOnly (nodeId : String) (b : RetrievalBody) (args : Json) :
    FailsOnly (ServiceFault c.host) (search c nodeId b args) := by
  unfold search
  split
  · exact .pure _
  · split
    · exact .throw (.missing _)
    · next service hs =>
      refine .bind (.checkCancelled c .cancelled) fun _ _ => ?_
      refine .bind (.await .cancelled fun w f hf => .given (.retrieval hs hf)) fun passages _ => ?_
      exact .bind (.changeState _) fun _ _ => .pure _

theorem draw_failsOnly (b : RandomizerBody) {P : Fault → Prop} : FailsOnly P (draw c b) := by
  unfold draw
  split
  · exact .pure _
  · exact .bind (.ask _) fun _ _ => .pure _

theorem useState_failsOnly (b : GlobalStateBody) (args : Json) {P : Fault → Prop} :
    FailsOnly P (useState b args : Exec σ Json) := by
  unfold useState
  refine .bind .state fun s _ => ?_
  split
  · exact .pure _
  · exact .bind (.changeState _) fun _ _ => .bind .forget fun _ _ => .pure _

theorem callTool_failsOnly (b : ToolBinding) (args : Json) :
    FailsOnly (ServiceFault c.host) (callTool c b args) := by
  unfold callTool
  split
  · exact .pure _
  · split
    · exact draw_failsOnly c _
    · exact .pure _
    · exact useState_failsOnly _ _
    · exact search_failsOnly c _ _ _
    · exact .pure _

theorem answerCalls_failsOnly (nodeId : String) (tools : ToolSet) (calls : List ToolCall) :
    FailsOnly (ServiceFault c.host) (answerCalls c nodeId tools calls) := by
  induction calls with
  | nil => exact .pure _
  | cons call calls ih =>
    refine .bind ?_ fun m _ => .bind ih fun _ _ => .pure _
    refine .bind (.checkCancelled c .cancelled) fun _ _ => .bind (.trace c _) fun _ _ => ?_
    split
    · exact .bind (callTool_failsOnly c _ _) fun _ _ => .pure _
    · exact .pure _

theorem askModel_failsOnly {x : Exchange σ} (hx : c.host.completion = some x.complete)
    (messages : List Message) (tools : List ToolDefinition) :
    FailsOnly (ServiceFault c.host) (askModel c x messages tools) := by
  refine .bind (.checkCancelled c .cancelled) fun _ _ => ?_
  refine .bind (.await .cancelled fun w f hf => .given (.completion hx hf)) fun reply hreply => ?_
  obtain ⟨w, hw⟩ := hreply.of_await
  refine takeReply_failsOnly c _ reply ?_
  rintro items closed rfl f hf
  exact .chunk hx hw hf

theorem rounds_failsOnly {x : Exchange σ} (hx : c.host.completion = some x.complete) (left : Nat) :
    ∀ (messages : List Message) (usage : Option Usage),
    FailsOnly (ServiceFault c.host) (rounds c x left messages usage) := by
  induction left with
  | zero => exact fun _ _ => .bind (askModel_failsOnly c hx _ _) fun _ _ => .pure _
  | succ left ih =>
    intro messages usage
    refine .bind (askModel_failsOnly c hx _ _) fun r _ => ?_
    dsimp only
    split
    · exact .pure _
    · exact .bind (answerCalls_failsOnly c _ _ _) fun _ _ => ih _ _

theorem reportUsage_failsOnly (nodeId model : String) (usage : Option Usage) :
    FailsOnly (ServiceFault c.host) (reportUsage c nodeId model usage) := by
  cases usage with
  | none => exact .pure _
  | some usage =>
    refine .bind (.emit c _) fun _ _ => ?_
    split
    · next record hrecord =>
      refine .bind (.ask _) fun result hresult => .ofExcept fun f hf => ?_
      obtain ⟨s, s', hs⟩ := hresult
      cases hs
      exact .given (.usage hrecord hf)
    · exact .pure _

end Exec

/-! ## 3. Faults of a node -/

/-- The fault of a tool provider on the chain of control. -/
def offChain (nodeId : String) : Fault :=
  .failed ("'" ++ nodeId ++ "' is a tool provider and cannot run on the control chain")

/-- The texts that a node needs. -/
def neededTexts : List String := ["condition", "selector", "transform source", "variable path"]

/-- **The faults with which a node can fail.** -/
inductive NodeFault (c : Frame σ) (nodeId : String) (b : NodeBody) : Fault → Prop where
  | service {f : Fault} (h : ServiceFault c.host f) : NodeFault c nodeId b f
  | script (message : String) : NodeFault c nodeId b (.script message)
  | badPath (path : String) (fault : PathFault) : NodeFault c nodeId b (.badPath path fault)
  | blank {what : String} (h : what ∈ neededTexts) :
      NodeFault c nodeId b (.badSetup (what ++ " is empty"))
  | condition (v : Json) : NodeFault c nodeId b
      (.failed ("condition of '" ++ nodeId ++ "' must evaluate to a boolean, got " ++ v.compact))
  | selector (reason : String) : NodeFault c nodeId b
      (.failed ("switch '" ++ nodeId ++ "': " ++ reason))
  /-- The providers of a node that asks the model could not be collected. -/
  | collect {f : Fault} {s : RunState} {r : Resolver} (h : b.nodeType = .completion)
      (error : (Tools.collect c.engine c.graph s c.settings.context nodeId r).1 = .error f) :
      NodeFault c nodeId b f
  | offChain (h : b.nodeType.isToolProvider = true) : NodeFault c nodeId b (offChain nodeId)

theorem required_eq_error {text what : String} {f : Fault} (h : required text what = .error f) :
    f = .badSetup (what ++ " is empty") := by
  unfold required at h
  split at h
  · cases h
    rfl
  · cases h

theorem setVar_eq_error {s : RunState} {path : String} {v : Json} {f : Fault}
    (h : s.setVar path v = .error f) : ∃ fault, f = .badPath path fault := by
  cases hsegments : Json.segments path with
  | ok ss => simp only [RunState.setVar, Json.setPath, hsegments, Except.map, reduceCtorEq] at h
  | error f' =>
    simp only [RunState.setVar, Json.setPath, hsegments, Except.map, Except.error.injEq] at h
    subst h
    unfold Json.segments at hsegments
    split at hsegments
    · cases hsegments
      exact ⟨_, rfl⟩
    · dsimp only at hsegments
      split at hsegments
      · cases hsegments
        exact ⟨_, rfl⟩
      · cases hsegments

namespace Exec

variable (c : Frame σ) (nodeId : String)

theorem complete_failsOnly (b : CompletionBody) :
    FailsOnly (NodeFault c nodeId (.completion b)) (complete c nodeId b) := by
  unfold complete
  split
  · exact .throw (.service (.missing _))
  · next service hs =>
    refine .bind .state fun s _ => .bind (.read c _) fun collected hread => ?_
    obtain ⟨memory, rfl⟩ := hread.of_read
    refine .bind (.ofExcept fun f hf => .collect rfl hf) fun tools _ => ?_
    refine .bind (.changeState _) fun _ _ => ?_
    have hrounds (limit : Nat) (messages : List Message) :
        FailsOnly (NodeFault c nodeId (.completion b))
          (rounds c { nodeId, body := b, tools, complete := service } limit messages none) :=
      (rounds_failsOnly c hs limit messages none).mono fun _ => .service
    have hreport (usage : Option Usage) :
        FailsOnly (NodeFault c nodeId (.completion b)) (reportUsage c nodeId b.model usage) :=
      (reportUsage_failsOnly c nodeId b.model usage).mono fun _ => .service
    dsimp only
    split
    · exact .bind (.trace c _) fun _ _ => .bind .state fun s _ => .bind (hrounds _ _) fun _ _ =>
        .bind (.changeState _) fun _ _ => hreport _
    · exact .bind .state fun s _ => .bind (hrounds _ _) fun _ _ =>
        .bind (.changeState _) fun _ _ => hreport _

theorem requiredScript_failsOnly {b : NodeBody} (mode : ScriptMode) (source : String)
    {what : String} (h : what ∈ neededTexts) :
    FailsOnly (NodeFault c nodeId b) (requiredScript c mode source what) := by
  refine .bind (.ofExcept fun f hf => ?_) fun _ _ => .script c .script _ _
  rw [required_eq_error hf]
  exact .blank h

theorem writeVariable_failsOnly (b : SetVariableBody) :
    FailsOnly (NodeFault c nodeId (.setVariable b)) (writeVariable c nodeId b) := by
  refine .bind ?_ fun v _ => .bind .state fun s _ => .bind (.ofExcept fun f hf => ?_) fun _ _ =>
    .bind (.changeState _) fun _ _ => .forget
  · refine .bind .state fun s _ => ?_
    split
    · exact .bind (.read c _) fun _ _ => .pure _
    · split
      · exact .pure _
      · exact .script c .script _ _
  · obtain ⟨fault, rfl⟩ := setVar_eq_error hf
    exact .badPath _ _

theorem addFragment_failsOnly (b : ContextMessageBody) {P : Fault → Prop} :
    FailsOnly P (addFragment c nodeId b) := by
  unfold addFragment
  split
  · exact .trace c _
  · exact .changeState _

theorem branchPort_eq_error {v : Json} {f : Fault} (h : branchPort nodeId v = .error f) :
    f = .failed
      ("condition of '" ++ nodeId ++ "' must evaluate to a boolean, got " ++ v.compact) := by
  unfold branchPort at h
  split at h
  · cases h
  · cases h
  · cases h
    rfl

theorem selectedPort_eq_error {b : SwitchBody} {v : Json} {f : Fault}
    (h : selectedPort nodeId b v = .error f) :
    ∃ reason, f = .failed ("switch '" ++ nodeId ++ "': " ++ reason) := by
  unfold selectedPort at h
  split at h
  · cases h
  · cases h
    exact ⟨_, rfl⟩

/-- What a node with a body can fail with, one case for each kind of body. -/
theorem perform_failsOnly (b : NodeBody) :
    FailsOnly (NodeFault c nodeId b) (perform c nodeId b) := by
  cases b with
  | start => exact .pure _
  | finish => exact .pure _
  | ifElse condition =>
    refine .bind (requiredScript_failsOnly c nodeId _ _ (by decide)) fun v _ => ?_
    refine .bind (.ofExcept fun f hf => ?_) fun _ _ => .pure _
    rw [branchPort_eq_error nodeId hf]
    exact .condition v
  | switch b =>
    refine .bind (requiredScript_failsOnly c nodeId _ _ (by decide)) fun v _ => ?_
    refine .bind (.ofExcept fun f hf => ?_) fun _ _ => .pure _
    obtain ⟨reason, rfl⟩ := selectedPort_eq_error nodeId hf
    exact .selector reason
  | transform b =>
    refine .bind (requiredScript_failsOnly c nodeId _ _ (by decide)) fun v _ => ?_
    exact .bind (.changeState _) fun _ _ => .pure _
  | getVariable b =>
    refine .bind (.ofExcept fun f hf => ?_) fun path _ => ?_
    · rw [required_eq_error hf]
      exact .blank (by decide)
    · exact .bind .state fun s _ => .bind (.changeState _) fun _ _ => .pure _
  | setVariable b => exact .bind (writeVariable_failsOnly c nodeId b) fun _ _ => .pure _
  | contextMessage b => exact .bind (addFragment_failsOnly c nodeId b) fun _ _ => .pure _
  | completion b => exact .bind (complete_failsOnly c nodeId b) fun _ _ => .pure _
  | randomizer _ => exact .throw (.offChain rfl)
  | retrieval _ => exact .throw (.offChain rfl)
  | documentReader _ => exact .throw (.offChain rfl)
  | globalState _ => exact .throw (.offChain rfl)

/-- **The list of faults is complete.** -/
theorem execute_failsOnly (n : Node) :
    FailsOnly (NodeFault c n.id n.data.body) (execute c n) := by
  refine .bind (.trace c _) fun _ _ => ?_
  split
  · exact .bind (.trace c _) fun _ _ => .pure _
  · exact perform_failsOnly c n.id n.data.body

end Exec

/-! ## 4. Messages -/

namespace Fault

variable {f : Fault} {m : String}

/-- A failure is told from all other faults by its message. -/
theorem message_eq_failed (h : f.message = (Fault.failed m).message) : f = .failed m := by
  unfold message at h
  have hthird := congrArg (fun s => s.toList[2]?) h
  cases f with
  | failed m' => exact congrArg failed ((String.append_right_inj _).mp h)
  | _ => simp [String.toList_append] at hthird

/-- So is a wrong setup. -/
theorem message_eq_badSetup (h : f.message = (Fault.badSetup m).message) : f = .badSetup m := by
  unfold message at h
  have hsecond := congrArg (fun s => s.toList[1]?) h
  have hninth := congrArg (fun s => s.toList[8]?) h
  cases f with
  | badSetup m' => exact congrArg badSetup ((String.append_right_inj _).mp h)
  | badPath _ _ => simp [String.toList_append] at hninth
  | _ => simp [String.toList_append] at hsecond

/-- No fault has the message of a run that took too long. -/
theorem message_ne_exhausted (f : Fault) : f.message ≠ "execution limit reached" := by
  intro h
  unfold message at h
  have hfirst := congrArg (fun s => s.toList.head?) h
  cases f <;> simp [String.toList_append] at hfirst

end Fault

end Workgraph
