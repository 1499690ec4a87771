import Workgraph.Proofs.History
import Workgraph.Proofs.Record

/-!
# Steps side by side

Much of what is known about runs compares two of them: one with its record and one without, one in
each of two graphs, or a run and the session in which it began. Every such comparison goes through
all that a node can do. This file does so once, for any relation between the sessions of two frames.

* `Graph.Alike` says that runs find the same in two graphs.
* `NodeBody.Writes` lists the operations by which a node with a body writes to the state.
* `Frame.Accord` has a clause for everything else that the executor of a node does but for asking
  the model: when it is done in both frames, sessions that are related stay so. `Permits` says so of
  writes, `Frame.AccordOnModel` and `Frame.AccordOnReplies` of the model and its replies.
* `Exec.Follows` says that two steps settle alike, and in sessions that are related. It goes through
  sequences of steps (`Follows.bind`), so each step needs one lemma; `execute_follows` is the one
  for nodes. All that it takes of the model is that asking it goes side by side (`AsksAlike`):
  a relation may be lost while a reply is taken, as long as it holds again at the end.
* `Frame.SpeaksAlike` is for two frames that differ in nothing an exchange looks at: then its rounds
  are not only side by side but the same steps (`SpeaksAlike.rounds`).
-/

namespace Workgraph

variable {σ τ : Type}

/-! ## 1. Graphs that are read alike -/

/-- Two graphs in which runs find the same. -/
structure Graph.Alike (g g' : Graph) : Prop where
  findNode? (id : String) : g'.findNode? id = g.findNode? id
  startNode? : g'.startNode? = g.startNode?
  routes (n : Node) : g'.routes n = g.routes n
  edgeInto? (id port : String) : g'.edgeInto? id port = g.edgeInto? id port
  providerEdges (consumer : String) : g'.providerEdges consumer = g.providerEdges consumer
  length : g'.nodes.length = g.nodes.length

namespace Graph.Alike

theorem refl (g : Graph) : g.Alike g where
  findNode? _ := rfl
  startNode? := rfl
  routes _ := rfl
  edgeInto? _ _ := rfl
  providerEdges _ := rfl
  length := rfl

variable {g g' : Graph} (h : g.Alike g')

include h

theorem next (n : Node) (t : Transition) : g'.next n t = g.next n t := by
  have hthrough (port : String) : g'.through? n port = g.through? n port := by
    unfold Graph.through? Graph.follow?
    rw [h.routes]
    simp only [h.findNode?]
  unfold Graph.next
  simp only [hthrough]

theorem isWired (id port : String) : g'.isWired id port = g.isWired id port := by
  unfold Graph.isWired
  rw [h.edgeInto?]

variable (e : ScriptEngine) (s : RunState)

theorem valueAfter? (fuel : Nat) : ∀ (met : List String) (id : String),
    Resolver.valueAfter? e g' s fuel met id = Resolver.valueAfter? e g s fuel met id := by
  induction fuel with
  | zero => exact fun _ _ => rfl
  | succ fuel ih =>
    intro met id
    unfold Resolver.valueAfter?
    simp only [h.findNode?, h.edgeInto?, ih]

theorem input? (id port : String) :
    Resolver.input? e g' s id port = Resolver.input? e g s id port := by
  unfold Resolver.input? Resolver.value?
  rw [h.edgeInto?, h.length]
  simp only [h.valueAfter?]

theorem collectFrom (settings : ContextSettings) (consumer : String) (edges : List Edge) :
    ∀ c : Tools.Collected, Tools.collectFrom e g' s settings consumer edges c =
      Tools.collectFrom e g s settings consumer edges c := by
  have hisOpen (n : Node) : Tools.isOpen e g' s n = Tools.isOpen e g s n := by
    unfold Tools.isOpen
    rw [h.isWired, h.input?]
  induction edges with
  | nil => exact fun _ => rfl
  | cons edge edges ih =>
    intro c
    have hprovider : Tools.providerOf? g' edge = Tools.providerOf? g edge := by
      unfold Tools.providerOf?
      rw [h.findNode?]
    unfold Tools.collectFrom
    simp only [hprovider, hisOpen, ih]

theorem collect (settings : ContextSettings) (consumer : String) :
    Tools.collect e g' s settings consumer = Tools.collect e g s settings consumer := by
  unfold Tools.collect
  rw [h.providerEdges]
  exact h.collectFrom e s settings consumer _ _

end Graph.Alike

/-! ## 2. Writes -/

/-- The session after a write to the state. -/
def Session.write (s : Session σ) (op : Operation) : Session σ :=
  { s with state := op.write s.state }

theorem Session.write_setVar {s : Session σ} {path : String} {v : Json} {state : RunState}
    (h : s.state.setVar path v = .ok state) : s.write (.setVar path v) = { s with state } := by
  simp only [write, Operation.write, h]

/-- The writes of a tool call. -/
def Tools.Writes : Operation → Prop
  | .setVar _ _ | .pushContext _ => True
  | _ => False

/-- The writes of a node with a body. -/
def NodeBody.Writes (c : Frame σ) (nodeId : String) : NodeBody → Operation → Prop
  | .transform _, .setPayload _ | .getVariable _, .setPayload _ => True
  | .setVariable b, .setVar path _ => path = b.path
  | .contextMessage b, .pushContext f =>
    f = { role := b.role, text := b.text
          priority := b.priority.getD c.settings.context.fragmentPriority
          sourceNodeId := some nodeId }
  | .completion _, .setVar _ _ | .completion _, .pushContext _ => True
  | .completion _, .converse _ | .completion _, .setPayload _ => True
  | _, _ => False

/-- A completion node may write all that its tools may. -/
theorem NodeBody.writes_of_tools (c : Frame σ) (nodeId : String) (b : CompletionBody)
    {op : Operation} (h : Tools.Writes op) : (NodeBody.completion b).Writes c nodeId op := by
  cases op <;> trivial

/-- A write through the tool for variables is a write to one of them, under the scope of a provider
that may write. -/
theorem GlobalStateBody.call_setVar {b : GlobalStateBody} {args result : Json} {s s' : RunState}
    (h : b.call args s = (result, some s')) :
    b.allowWrite = true ∧ ∃ path v, s.setVar (b.scopedPath path) v = .ok s' := by
  unfold call at h
  split at h
  · cases h
  · dsimp only at h
    split at h
    · cases h
    · split at h
      · next hallowed =>
        split at h
        · next hset =>
          cases h
          exact ⟨hallowed, _, _, hset⟩
        · cases h
      · cases h
    · cases h

/-! ## 3. Relations between sessions -/

/-- What the executor of a node may tell of. -/
def Happening.Within (nodeId : String) : Happening → Prop
  | .trace _ => True
  | .assistantDelta id _ | .usage id _ _ => id = nodeId
  | _ => False

/-- The text of the assistant that an event tells of. -/
def Happening.delta? : Happening → Option String
  | .assistantDelta _ text => some text
  | _ => none

/-- Services of two hosts answer alike in sessions that are related by `P`, and lead to sessions
that are related by `S`. -/
def Serves {α : Type} (P S : Session σ → Session τ → Prop) (service : σ → α × σ)
    (service' : τ → α × τ) : Prop :=
  ∀ s s', P s s' → (service' s'.world).1 = (service s.world).1 ∧
    S { s with world := (service s.world).2 } { s' with world := (service' s'.world).2 }

/-- What two hosts supply alike, both of them do or none of them. -/
theorem rel_cases {α β : Type} {r : α → β → Prop} {a? : Option α} {b? : Option β}
    (h : Option.Rel r a? b?) :
    (a? = none ∧ b? = none) ∨ ∃ a b, a? = some a ∧ b? = some b ∧ r a b := by
  cases h with
  | none => exact Or.inl ⟨rfl, rfl⟩
  | some hr => exact Or.inr ⟨_, _, rfl, rfl, hr⟩

/-- Both hosts supply a service that takes arguments, or none of them does. -/
def ServesIfAny {ι α : Type} (P S : Session σ → Session τ → Prop) :
    Option (ι → σ → α × σ) → Option (ι → τ → α × τ) → Prop :=
  Option.Rel fun service service' => ∀ q, Serves P S (service q) (service' q)

theorem ServesIfAny.cases {ι α : Type} {P S : Session σ → Session τ → Prop}
    {service? : Option (ι → σ → α × σ)} {service?' : Option (ι → τ → α × τ)}
    (h : ServesIfAny P S service? service?') : (service? = none ∧ service?' = none) ∨
      ∃ service service', service? = some service ∧ service?' = some service' ∧
        ∀ q, Serves P S (service q) (service' q) := rel_cases h

/-- The sessions are related, and the run is not cancelled. -/
def Frame.Running (c : Frame σ) (S : Session σ → Session τ → Prop) (s : Session σ)
    (s' : Session τ) : Prop := S s s' ∧ c.host.cancelled s.world = false

/-- **Two frames in accord on a relation between their sessions**: it survives what the executor of
a node does in both, besides writing to the state and asking the model. -/
structure Frame.Accord (c : Frame σ) (c' : Frame τ) (nodeId : String)
    (S : Session σ → Session τ → Prop) : Prop where
  graph : c.graph.Alike c'.graph
  engine : c'.engine = c.engine
  settings : c'.settings = c.settings
  state {s : Session σ} {s' : Session τ} : S s s' → s'.state = s.state
  resolver {s : Session σ} {s' : Session τ} : S s s' → s'.resolver = s.resolver
  /-- Values are read, remembered and forgotten. -/
  remember {s : Session σ} {s' : Session τ} (r : Resolver) : S s s' →
    S { s with resolver := r } { s' with resolver := r }
  cancelled {s : Session σ} {s' : Session τ} : S s s' →
    c'.host.cancelled s'.world = c.host.cancelled s.world
  told {happening : Happening} {s : Session σ} {s' : Session τ} : happening.Within nodeId →
    happening.delta? = none → S s s' →
    S { s with world := c.host.deliver ⟨c.executionId, happening⟩ s.world }
      { s' with world := c'.host.deliver ⟨c'.executionId, happening⟩ s'.world }
  /-- A knowledge store is searched only while the run is not cancelled. -/
  searched : ServesIfAny (c.Running S) S c.host.retrieval c'.host.retrieval
  counted : ServesIfAny S S c.host.usage c'.host.usage
  drew (bound : Nat) : Serves S S (c.host.draw bound) (c'.host.draw bound)

/-- The relation survives what is done to take a reply of the model. -/
structure Frame.AccordOnReplies (c : Frame σ) (c' : Frame τ) (nodeId : String)
    (S : Session σ → Session τ → Prop) : Prop where
  heard (text : String) {s : Session σ} {s' : Session τ} : S s s' →
    S { s with world := c.host.deliver ⟨c.executionId, .assistantDelta nodeId text⟩ s.world }
      { s' with world := c'.host.deliver ⟨c'.executionId, .assistantDelta nodeId text⟩ s'.world }
  waited : Serves S S c.host.interrupts c'.host.interrupts
  lapsed {s : Session σ} {s' : Session τ} : S s s' →
    S { s with world := c.host.lapse s.world } { s' with world := c'.host.lapse s'.world }

/-- The relation survives that the model is asked, while the run is not cancelled. -/
def Frame.AccordOnModel (c : Frame σ) (c' : Frame τ) (S : Session σ → Session τ → Prop) : Prop :=
  ServesIfAny (c.Running S) S c.host.completion c'.host.completion

/-- The relation survives some writes. -/
def Permits (S : Session σ → Session τ → Prop) (writes : Operation → Prop) : Prop :=
  ∀ op, writes op → ∀ s s', S s s' → S (s.write op) (s'.write op)

theorem Permits.mono {S : Session σ → Session τ → Prop} {writes writes' : Operation → Prop}
    (h : Permits S writes') (himp : ∀ op, writes op → writes' op) : Permits S writes :=
  fun op hop => h op (himp op hop)

/-! ## 4. Steps -/

/-- What the wait for a service amounts to. -/
def Arrival.result : Arrival α → Except Fault α
  | .answered result => result
  | .interrupted => .error .cancelled

namespace Exec

variable {α β : Type}

theorem settle_bind_of_ok {act : Exec σ α} {k : α → Exec σ β} {s s' : Session σ} {a : α}
    (h : settle act s = (.ok a, s')) : settle (act >>= k) s = settle (k a) s' := by
  unfold settle at h ⊢
  simp only [bind, EStateM.bind]
  split at h
  · next hact =>
    cases h
    rw [hact]
  · cases h

theorem settle_bind_of_error {act : Exec σ α} {k : α → Exec σ β} {s s' : Session σ} {f : Fault}
    (h : settle act s = (.error f, s')) : settle (act >>= k) s = (.error f, s') := by
  unfold settle at h ⊢
  simp only [bind, EStateM.bind]
  split at h
  · cases h
  · next hact =>
    cases h
    rw [hact]

/-- Of two steps in a row the first fails, or it gives a result and the second fails. -/
theorem settle_bind_eq_error {act : Exec σ α} {k : α → Exec σ β} {s s' : Session σ} {f : Fault}
    (h : settle (act >>= k) s = (.error f, s')) : settle act s = (.error f, s') ∨
      ∃ a t, settle act s = (.ok a, t) ∧ settle (k a) t = (.error f, s') := by
  cases hact : settle act s with
  | mk x t =>
    cases x with
    | ok a =>
      rw [settle_bind_of_ok hact] at h
      exact .inr ⟨a, t, rfl, h⟩
    | error g =>
      rw [settle_bind_of_error hact] at h
      cases h
      exact .inl rfl

theorem settle_checkCancelled (c : Frame σ) (s : Session σ) : settle (checkCancelled c) s =
    (if c.host.cancelled s.world then .error .cancelled else .ok (), s) := by
  have hget : settle (get : Exec σ (Session σ)) s = (.ok s, s) := rfl
  unfold checkCancelled
  rw [settle_bind_of_ok hget]
  split <;> rfl

theorem settle_ofExcept (x : Except Fault α) (s : Session σ) : settle (ofExcept x) s = (x, s) := by
  cases x <;> rfl

theorem settle_ask (service : σ → α × σ) (s : Session σ) : settle (ask service) s =
    (.ok (service s.world).1, { s with world := (service s.world).2 }) := rfl

theorem settle_await (service : σ → Arrival α × σ) (s : Session σ) : settle (await service) s =
    ((service s.world).1.result, { s with world := (service s.world).2 }) := by
  unfold await
  rw [settle_bind_of_ok (settle_ask service s)]
  cases (service s.world).1 with
  | answered result => cases result <;> rfl
  | interrupted => rfl

/-- Two steps settle alike from a session each, and in sessions that are related. -/
def FollowsAt (S : Session σ → Session τ → Prop) (act : Exec σ α) (act' : Exec τ α)
    (s : Session σ) (s' : Session τ) : Prop :=
  (settle act' s').1 = (settle act s).1 ∧ S (settle act s).2 (settle act' s').2

/-- **Two steps side by side**, from all sessions that are related. -/
def Follows (S : Session σ → Session τ → Prop) (act : Exec σ α) (act' : Exec τ α) : Prop :=
  ∀ s s', S s s' → FollowsAt S act act' s s'

namespace Follows

variable {S : Session σ → Session τ → Prop} {act : Exec σ α} {act' : Exec τ α} {k : α → Exec σ β}
  {k' : α → Exec τ β}

theorem bind (hact : Follows S act act') (hk : ∀ a, Follows S (k a) (k' a)) :
    Follows S (act >>= k) (act' >>= k') := by
  intro s s' hs
  obtain ⟨hresult, hafter⟩ := hact s s' hs
  cases hx : settle act s with
  | mk x t =>
    cases hx' : settle act' s' with
    | mk x' t' =>
      rw [hx, hx'] at hresult hafter
      dsimp only at hresult hafter
      subst hresult
      unfold FollowsAt
      cases x' with
      | ok a =>
        rw [settle_bind_of_ok hx, settle_bind_of_ok hx']
        exact hk a t t' hafter
      | error f =>
        rw [settle_bind_of_error hx, settle_bind_of_error hx']
        exact ⟨rfl, hafter⟩

theorem pure (a : α) : Follows S (Pure.pure a : Exec σ α) (Pure.pure a) := fun _ _ hs => ⟨rfl, hs⟩

theorem throw (f : Fault) : Follows S (MonadExcept.throw f : Exec σ α) (MonadExcept.throw f) :=
  fun _ _ hs => ⟨rfl, hs⟩

theorem ofExcept (x : Except Fault α) : Follows S (Exec.ofExcept x) (Exec.ofExcept x) := by
  cases x with
  | ok a => exact .pure a
  | error f => exact .throw f

theorem changeState {f : RunState → RunState}
    (hf : ∀ s s', S s s' → S { s with state := f s.state } { s' with state := f s'.state }) :
    Follows S (Exec.changeState f) (Exec.changeState f) := fun s s' hs => ⟨rfl, hf s s' hs⟩

theorem ask {service : σ → α × σ} {service' : τ → α × τ} (h : Serves S S service service') :
    Follows S (Exec.ask service) (Exec.ask service') := by
  intro s s' hs
  obtain ⟨hanswer, hafter⟩ := h s s' hs
  exact ⟨congrArg Except.ok hanswer, hafter⟩

/-- What follows a look at the state may rely on it. -/
theorem look {k : RunState → Exec σ β} {k' : RunState → Exec τ β}
    (hstate : ∀ s s', S s s' → s'.state = s.state)
    (hk : ∀ s s', S s s' → FollowsAt S (k s.state) (k' s.state) s s') :
    Follows S (Exec.state >>= k) (Exec.state >>= k') := by
  intro s s' hs
  show FollowsAt S (k s.state) (k' s'.state) s s'
  rw [hstate s s' hs]
  exact hk s s' hs

variable {c : Frame σ} {c' : Frame τ} {nodeId : String} (h : c.Accord c' nodeId S)

include h

theorem state {k : RunState → Exec σ β} {k' : RunState → Exec τ β}
    (hk : ∀ s s', S s s' → FollowsAt S (k s.state) (k' s.state) s s') :
    Follows S (Exec.state >>= k) (Exec.state >>= k') := .look (fun _ _ hs => h.state hs) hk

theorem forget : Follows S Exec.forget Exec.forget := by
  intro s s' hs
  refine ⟨rfl, ?_⟩
  show S { s with resolver := s.resolver.forget } { s' with resolver := s'.resolver.forget }
  rw [h.resolver hs]
  exact h.remember _ hs

theorem emit {happening : Happening} (hwithin : happening.Within nodeId)
    (hdelta : happening.delta? = none) :
    Follows S (Exec.emit c happening) (Exec.emit c' happening) :=
  fun _ _ hs => ⟨rfl, h.told hwithin hdelta hs⟩

theorem trace (message : String) : Follows S (Exec.trace c message) (Exec.trace c' message) :=
  .emit h trivial rfl

theorem traceLogs (lines : List String) :
    Follows S (Exec.traceLogs c lines) (Exec.traceLogs c' lines) := by
  induction lines with
  | nil => exact .pure ()
  | cons line lines ih => exact .bind (.trace h _) fun _ => ih

theorem script (mode : ScriptMode) (source : String) :
    Follows S (Exec.script c mode source) (Exec.script c' mode source) := by
  unfold Exec.script
  rw [h.engine]
  exact .state h fun s s' hs => Follows.bind (.traceLogs h _) (fun _ => .ofExcept _) s s' hs

theorem read (act : StateM Resolver α) : Follows S (Exec.read c act) (Exec.read c' act) := by
  intro s s' hs
  show FollowsAt S
    (Exec.traceLogs c ((act s.resolver).2.takeLogs).1 >>= fun _ => Pure.pure (act s.resolver).1)
    (Exec.traceLogs c' ((act s'.resolver).2.takeLogs).1 >>= fun _ => Pure.pure (act s'.resolver).1)
    { s with resolver := ((act s.resolver).2.takeLogs).2 }
    { s' with resolver := ((act s'.resolver).2.takeLogs).2 }
  rw [h.resolver hs]
  exact Follows.bind (.traceLogs h _) (fun _ => .pure _) _ _ (h.remember _ hs)

theorem checkCancelled : Follows S (Exec.checkCancelled c) (Exec.checkCancelled c') := by
  intro s s' hs
  unfold FollowsAt
  rw [settle_checkCancelled, settle_checkCancelled, h.cancelled hs]
  exact ⟨rfl, hs⟩

/-- What is asked right after a look at the host is asked while the run is not cancelled. -/
theorem await {service : σ → Arrival α × σ} {service' : τ → Arrival α × τ}
    (hservice : Serves (c.Running S) S service service') (hk : ∀ a, Follows S (k a) (k' a)) :
    Follows S (Exec.checkCancelled c >>= fun _ => Exec.await service >>= k)
      (Exec.checkCancelled c' >>= fun _ => Exec.await service' >>= k') := by
  rw [← bind_assoc, ← bind_assoc]
  refine .bind (fun s s' hs => ?_) hk
  have hcheck := settle_checkCancelled c s
  have hcheck' := settle_checkCancelled c' s'
  rw [h.cancelled hs] at hcheck'
  unfold FollowsAt
  cases hc : c.host.cancelled s.world with
  | true =>
    rw [hc, if_pos rfl] at hcheck hcheck'
    rw [settle_bind_of_error hcheck, settle_bind_of_error hcheck']
    exact ⟨rfl, hs⟩
  | false =>
    rw [hc, if_neg Bool.false_ne_true] at hcheck hcheck'
    obtain ⟨hanswer, hafter⟩ := hservice s s' ⟨hs, hc⟩
    rw [settle_bind_of_ok hcheck, settle_bind_of_ok hcheck', settle_await, settle_await, hanswer]
    exact ⟨rfl, hafter⟩

end Follows

/-- Asking two models goes side by side, whatever they are asked. -/
def AsksAlike (c : Frame σ) (c' : Frame τ) (nodeId : String) (S : Session σ → Session τ → Prop)
    (service : CompletionRequest → σ → Arrival Reply × σ)
    (service' : CompletionRequest → τ → Arrival Reply × τ) : Prop :=
  ∀ (b : CompletionBody) (tools : ToolSet) (messages : List Message)
    (definitions : List ToolDefinition),
    Follows S (askModel c ⟨nodeId, b, tools, service⟩ messages definitions)
      (askModel c' ⟨nodeId, b, tools, service'⟩ messages definitions)

/-- Both hosts supply a model and asking it goes side by side, or none of them does. -/
def AsksAlikeIfAny (c : Frame σ) (c' : Frame τ) (nodeId : String)
    (S : Session σ → Session τ → Prop) : Prop :=
  Option.Rel (AsksAlike c c' nodeId S) c.host.completion c'.host.completion

/-! ## 5. The parts of asking the model -/

/-- What a completion node does before it asks: it collects its tools and adds their guidance. -/
def gatherTools (c : Frame σ) (nodeId : String) : Exec σ ToolSet := do
  let s ← state
  let tools ← ofExcept (← read c (Tools.collect c.engine c.graph s c.settings.context nodeId))
  addGuidance tools.context
  if !tools.tools.isEmpty then
    trace c ("'" ++ nodeId ++ "' offers " ++ toString tools.tools.length ++ " tool(s)")
  return tools

/-- What a completion node does with the final text: the turns and the payload are written, and the
usage is reported. -/
def conclude (c : Frame σ) (nodeId : String) (b : CompletionBody) (prompt : String) :
    String × Option Usage → Exec σ Unit := fun (text, usage) => do
  changeState fun s =>
    { s with
      conversation := s.conversation
        ++ (if prompt.isEmpty then [] else [{ role := .user, content := prompt }])
        ++ [{ role := .assistant, content := text }]
      payload := .string text }
  reportUsage c nodeId b.model usage

/-- What a completion node does with its tools: the rounds, and what follows them. -/
def consult (c : Frame σ) (nodeId : String) (b : CompletionBody)
    (service : CompletionRequest → σ → Arrival Reply × σ) (tools : ToolSet) : Exec σ Unit := do
  let s ← state
  let limit := b.maxToolRounds.getD c.settings.completion.maxToolRounds
  let ending ← rounds c { nodeId, body := b, tools, complete := service } limit
    (b.openingMessages s s.payload.asPrompt) none
  conclude c nodeId b s.payload.asPrompt ending

theorem complete_eq {c : Frame σ} {service : CompletionRequest → σ → Arrival Reply × σ}
    (h : c.host.completion = some service) (nodeId : String) (b : CompletionBody) :
    complete c nodeId b = gatherTools c nodeId >>= consult c nodeId b service := by
  unfold complete gatherTools consult conclude
  rw [h]
  simp only [bind_assoc]
  refine bind_congr fun s => bind_congr fun collected => bind_congr fun tools => ?_
  refine bind_congr fun _ => ?_
  split
  · simp only [bind_assoc, pure_bind]
  · rw [pure_bind]

/-! ## 6. Replies -/

section

variable {c : Frame σ} {c' : Frame τ} {nodeId : String} {S : Session σ → Session τ → Prop}
  (h : c.AccordOnReplies c' nodeId S)

include h

theorem delta_follows (text : String) :
    Follows S (delta c nodeId text) (delta c' nodeId text) := fun _ _ hs => ⟨rfl, h.heard text hs⟩

theorem takePieces_follows (closed : Bool) : ∀ (items : List (Except Fault Chunk))
    (r : CompletionResponse),
    Follows S (takePieces c nodeId closed items r) (takePieces c' nodeId closed items r) := by
  intro items
  induction items with
  | nil =>
    intro r
    unfold takePieces
    split
    · refine .bind (.ask h.waited) fun interrupted => ?_
      split
      · exact .throw _
      · exact .pure _
    · exact .bind (fun _ _ hs => ⟨rfl, h.lapsed hs⟩) fun _ => .throw _
  | cons item items ih =>
    intro r
    unfold takePieces
    refine .bind (.ask h.waited) fun interrupted => ?_
    split
    · exact .throw _
    · refine .bind (.ofExcept item) fun chunk => ?_
      dsimp only
      split
      · exact .bind (delta_follows h _) fun _ => ih _
      · exact ih _

theorem takeReply_follows (reply : Reply) :
    Follows S (takeReply c nodeId reply) (takeReply c' nodeId reply) := by
  cases reply with
  | whole r =>
    unfold takeReply
    dsimp only
    split
    · exact .bind (delta_follows h _) fun _ => .pure _
    · exact .pure _
  | pieces items closed => exact takePieces_follows h closed items {}

end

/-! ## 7. Tool calls -/

section

variable {c : Frame σ} {c' : Frame τ} {nodeId : String} {S : Session σ → Session τ → Prop}
  (h : c.Accord c' nodeId S)

/-- Many writes keep a relation together. -/
theorem foldl_permits {ι : Type} {f : RunState → ι → RunState}
    (hf : ∀ i s s', S s s' → S { s with state := f s.state i } { s' with state := f s'.state i })
    (is : List ι) (s : Session σ) (s' : Session τ) (hs : S s s') :
    S { s with state := is.foldl f s.state } { s' with state := is.foldl f s'.state } := by
  induction is generalizing s s' with
  | nil => exact hs
  | cons i is ih =>
    exact ih { s with state := f s.state i } { s' with state := f s'.state i } (hf i s s' hs)

include h

theorem search_follows (hw : Permits S Tools.Writes) (id : String) (b : RetrievalBody)
    (args : Json) : Follows S (search c id b args) (search c' id b args) := by
  unfold search
  split
  · exact .pure _
  · rcases h.searched.cases with ⟨hnone, hnone'⟩ | ⟨retrieve, retrieve', hsome, hsome', hserves⟩
    · rw [hnone, hnone']
      exact .throw _
    · rw [hsome, hsome', h.settings]
      refine .await h (hserves _) fun passages => ?_
      refine .bind (.changeState (foldl_permits (fun p s s' hs => ?_) passages)) fun _ => .pure _
      exact hw (.pushContext _) trivial s s' hs

theorem draw_follows (b : RandomizerBody) : Follows S (draw c b) (draw c' b) := by
  unfold draw
  split
  · exact .pure _
  · exact .bind (.ask (h.drew _)) fun _ => .pure _

theorem useState_follows (hw : Permits S Tools.Writes) (b : GlobalStateBody) (args : Json) :
    Follows S (useState b args) (useState b args) := by
  unfold useState
  refine .state h fun s s' hs => ?_
  split
  · exact ⟨rfl, hs⟩
  · next state hcall =>
    obtain ⟨-, path, v, hset⟩ := b.call_setVar hcall
    -- the other session has the same state, so it is written alike
    have hset' : s'.state.setVar (b.scopedPath path) v = .ok state := by rw [h.state hs, hset]
    have hwrite := hw (.setVar (b.scopedPath path) v) trivial s s' hs
    rw [Session.write_setVar hset, Session.write_setVar hset'] at hwrite
    exact Follows.bind (.forget h) (fun _ => .pure _) _ _ hwrite

theorem callTool_follows (hw : Permits S Tools.Writes) (b : ToolBinding) (args : Json) :
    Follows S (callTool c b args) (callTool c' b args) := by
  unfold callTool
  rw [h.graph.findNode?]
  split
  · exact .pure _
  · split
    · exact draw_follows h _
    · exact .pure _
    · exact useState_follows h hw _ _
    · exact search_follows h hw _ _ _
    · exact .pure _

theorem answerCall_follows (hw : Permits S Tools.Writes) (tools : ToolSet) (call : ToolCall) :
    Follows S (answerCall c nodeId tools call) (answerCall c' nodeId tools call) := by
  refine .bind (.checkCancelled h) fun _ => .bind (.trace h _) fun _ => ?_
  split
  · exact .bind (callTool_follows h hw _ _) fun _ => .pure _
  · exact .pure _

theorem answerCalls_follows (hw : Permits S Tools.Writes) (tools : ToolSet)
    (calls : List ToolCall) :
    Follows S (answerCalls c nodeId tools calls) (answerCalls c' nodeId tools calls) := by
  induction calls with
  | nil => exact .pure _
  | cons call calls ih =>
    exact .bind (answerCall_follows h hw _ _) fun _ => .bind ih fun _ => .pure _

/-! ## 8. Asking the model -/

/-- Frames that are in accord on the model and its replies ask it alike. -/
theorem asksAlikeIfAny (hmodel : c.AccordOnModel c' S)
    (hreplies : c.AccordOnReplies c' nodeId S) : AsksAlikeIfAny c c' nodeId S := by
  unfold AsksAlikeIfAny
  rcases hmodel.cases with ⟨hnone, hnone'⟩ | ⟨service, service', hsome, hsome', hserves⟩
  · rw [hnone, hnone']
    exact .none
  · rw [hsome, hsome']
    exact .some fun b tools messages definitions =>
      .await h (hserves _) fun reply => takeReply_follows hreplies reply

theorem reportUsage_follows (model : String) (usage : Option Usage) :
    Follows S (reportUsage c nodeId model usage) (reportUsage c' nodeId model usage) := by
  cases usage with
  | none => exact .pure _
  | some usage =>
    unfold reportUsage
    refine .bind (.emit h rfl rfl) fun _ => ?_
    rcases h.counted.cases with ⟨hnone, hnone'⟩ | ⟨record, record', hsome, hsome', hserves⟩
    · rw [hnone, hnone']
      exact .pure _
    · rw [hsome, hsome']
      exact .bind (.ask (hserves _)) fun _ => .ofExcept _

theorem rounds_follows (hw : Permits S Tools.Writes) {b : CompletionBody} {tools : ToolSet}
    {service : CompletionRequest → σ → Arrival Reply × σ}
    {service' : CompletionRequest → τ → Arrival Reply × τ}
    (hasks : AsksAlike c c' nodeId S service service') (left : Nat) :
    ∀ (messages : List Message) (usage : Option Usage),
    Follows S (rounds c ⟨nodeId, b, tools, service⟩ left messages usage)
      (rounds c' ⟨nodeId, b, tools, service'⟩ left messages usage) := by
  induction left with
  | zero => exact fun _ _ => .bind (hasks b tools _ _) fun _ => .pure _
  | succ left ih =>
    intro messages usage
    refine .bind (hasks b tools _ _) fun r => ?_
    dsimp only
    split
    · exact .pure _
    · exact .bind (answerCalls_follows h hw _ _) fun _ => ih _ _

theorem addGuidance_follows (hw : Permits S Tools.Writes) (fragments : List Fragment) :
    Follows S (addGuidance fragments) (addGuidance fragments) := by
  refine .changeState (foldl_permits (fun f s s' hs => ?_) fragments)
  have hmem : f ∈ s'.state.context ↔ f ∈ s.state.context := by rw [h.state hs]
  by_cases hf : f ∈ s.state.context
  · rw [if_pos hf, if_pos (hmem.mpr hf)]
    exact hs
  · rw [if_neg hf, if_neg fun hf' => hf (hmem.mp hf')]
    exact hw (.pushContext f) trivial s s' hs

theorem gatherTools_follows (hw : Permits S Tools.Writes) :
    Follows S (gatherTools c nodeId) (gatherTools c' nodeId) := by
  unfold gatherTools
  rw [h.engine, h.settings]
  simp only [h.graph.collect]
  refine .state h fun s s' hs => Follows.bind (.read h _) (fun collected => ?_) s s' hs
  refine .bind (.ofExcept _) fun tools => .bind (addGuidance_follows h hw _) fun _ => ?_
  split
  · exact .bind (.trace h _) fun _ => .pure _
  · exact .pure _

theorem conclude_follows {b : CompletionBody}
    (hw : Permits S (NodeBody.Writes c nodeId (.completion b))) (prompt : String)
    (ending : String × Option Usage) :
    Follows S (conclude c nodeId b prompt ending) (conclude c' nodeId b prompt ending) := by
  obtain ⟨text, usage⟩ := ending
  refine .bind (.changeState fun s s' hs => ?_) fun _ => reportUsage_follows h _ _
  -- the turns are written one after the other, then the payload
  have hreply (s : Session σ) (s' : Session τ) (hs : S s s') :=
    hw (.setPayload (.string text)) trivial _ _
      (hw (.converse { role := .assistant, content := text }) trivial s s' hs)
  split
  · rw [List.append_nil, List.append_nil]
    exact hreply s s' hs
  · exact hreply _ _ (hw (.converse { role := .user, content := prompt }) trivial s s' hs)

theorem consult_follows {b : CompletionBody}
    (hw : Permits S (NodeBody.Writes c nodeId (.completion b)))
    {service : CompletionRequest → σ → Arrival Reply × σ}
    {service' : CompletionRequest → τ → Arrival Reply × τ}
    (hasks : AsksAlike c c' nodeId S service service') (tools : ToolSet) :
    Follows S (consult c nodeId b service tools) (consult c' nodeId b service' tools) := by
  have htools : Permits S Tools.Writes := hw.mono fun op => NodeBody.writes_of_tools c nodeId b
  unfold consult
  rw [h.settings]
  exact .state h fun s s' hs => Follows.bind (rounds_follows h htools hasks _ _ _)
    (fun ending => conclude_follows h hw _ ending) s s' hs

theorem complete_follows (hmodel : AsksAlikeIfAny c c' nodeId S) {b : CompletionBody}
    (hw : Permits S (NodeBody.Writes c nodeId (.completion b))) :
    Follows S (complete c nodeId b) (complete c' nodeId b) := by
  have htools : Permits S Tools.Writes := hw.mono fun op => NodeBody.writes_of_tools c nodeId b
  rcases rel_cases hmodel with ⟨hnone, hnone'⟩ | ⟨service, service', hsome, hsome', hasks⟩
  · unfold complete
    rw [hnone, hnone']
    exact .throw _
  · rw [complete_eq hsome, complete_eq hsome']
    exact .bind (gatherTools_follows h htools) fun tools => consult_follows h hw hasks tools

/-! ## 9. Nodes -/

theorem requiredScript_follows (mode : ScriptMode) (source what : String) :
    Follows S (requiredScript c mode source what) (requiredScript c' mode source what) :=
  .bind (.ofExcept _) fun _ => .script h _ _

theorem valueToWrite_follows (b : SetVariableBody) :
    Follows S (valueToWrite c nodeId b) (valueToWrite c' nodeId b) := by
  unfold valueToWrite
  rw [h.engine]
  simp only [h.graph.isWired, h.graph.input?]
  refine .state h fun s s' hs => ?_
  split
  · exact Follows.bind (.read h _) (fun _ => .pure _) s s' hs
  · split
    · exact ⟨rfl, hs⟩
    · exact Follows.script h _ _ s s' hs

theorem writeVariable_follows {b : SetVariableBody}
    (hw : Permits S (NodeBody.Writes c nodeId (.setVariable b))) :
    Follows S (writeVariable c nodeId b) (writeVariable c' nodeId b) := by
  refine .bind (valueToWrite_follows h b) fun v => .state h fun s s' hs => ?_
  cases hset : s.state.setVar b.path v with
  | error f => exact ⟨rfl, hs⟩
  | ok state =>
    have hset' : s'.state.setVar b.path v = .ok state := by rw [h.state hs, hset]
    have hwrite := hw (.setVar b.path v) rfl s s' hs
    rw [Session.write_setVar hset, Session.write_setVar hset'] at hwrite
    exact Follows.forget h _ _ hwrite

theorem addFragment_follows {b : ContextMessageBody}
    (hw : Permits S (NodeBody.Writes c nodeId (.contextMessage b))) :
    Follows S (addFragment c nodeId b) (addFragment c' nodeId b) := by
  unfold addFragment
  rw [h.settings]
  split
  · exact .trace h _
  · exact .changeState fun s s' hs => hw (.pushContext _) rfl s s' hs

/-- What a node with a body does, one case for each kind of body. -/
theorem perform_follows (hmodel : AsksAlikeIfAny c c' nodeId S) {b : NodeBody}
    (hw : Permits S (b.Writes c nodeId)) :
    Follows S (perform c nodeId b) (perform c' nodeId b) := by
  cases b with
  | start => exact .pure _
  | finish => exact .pure _
  | ifElse condition =>
    exact .bind (requiredScript_follows h _ _ _) fun _ => .bind (.ofExcept _) fun _ => .pure _
  | switch b =>
    exact .bind (requiredScript_follows h _ _ _) fun _ => .bind (.ofExcept _) fun _ => .pure _
  | transform b =>
    exact .bind (requiredScript_follows h _ _ _) fun v =>
      .bind (.changeState fun s s' hs => hw (.setPayload v) trivial s s' hs) fun _ => .pure _
  | getVariable b =>
    refine .bind (.ofExcept _) fun path => .state h fun s s' hs => ?_
    refine Follows.bind (.changeState fun s s' hs => ?_) (fun _ => .pure _) s s' hs
    exact hw (.setPayload _) trivial s s' hs
  | setVariable b => exact .bind (writeVariable_follows h hw) fun _ => .pure _
  | contextMessage b => exact .bind (addFragment_follows h hw) fun _ => .pure _
  | completion b => exact .bind (complete_follows h hmodel hw) fun _ => .pure _
  | randomizer _ => exact .throw _
  | retrieval _ => exact .throw _
  | documentReader _ => exact .throw _
  | globalState _ => exact .throw _

end

/-- **The executor of a node does the same in both frames**, when they are in accord on a relation
that survives the writes of the node and that the model is asked. -/
theorem execute_follows {c : Frame σ} {c' : Frame τ} {S : Session σ → Session τ → Prop} {n : Node}
    (h : c.Accord c' n.id S) (hmodel : AsksAlikeIfAny c c' n.id S)
    (hw : Permits S (n.data.body.Writes c n.id)) : Follows S (execute c n) (execute c' n) := by
  refine .bind (.trace h _) fun _ => ?_
  split
  · exact .bind (.trace h _) fun _ => .pure _
  · exact perform_follows h hmodel hw

/-- The session after the host was told of something to trace. -/
def traced (c : Frame σ) (message : String) (s : Session σ) : Session σ :=
  { s with world :=
      c.host.deliver { executionId := c.executionId, happening := .trace message } s.world }

/-- A muted node only tells the host that it is one. -/
theorem settle_execute_muted {c : Frame σ} {n : Node} (h : n.data.muted = true) (s : Session σ) :
    settle (execute c n) s = (.ok { port := n.outputPorts.head?.map (·.id) },
      traced c ("Skipping muted node '" ++ n.id ++ "'")
        (traced c (n.displayName ++ " (" ++ n.type.name ++ ")") s)) := by
  unfold execute
  rw [h]
  rfl

/-- Any other one does what its body says, after its entry was traced. -/
theorem settle_execute {c : Frame σ} {n : Node} (h : n.data.muted = false) (s : Session σ) :
    settle (execute c n) s = settle (perform c n.id n.data.body)
      (traced c (n.displayName ++ " (" ++ n.type.name ++ ")") s) := by
  unfold execute
  rw [h]
  rfl

theorem settle_perform_completion (c : Frame σ) (nodeId : String) (b : CompletionBody)
    (s : Session σ) : settle (perform c nodeId (.completion b)) s =
      ((settle (complete c nodeId b) s).1.map fun _ => {}, (settle (complete c nodeId b) s).2) := by
  cases hcomplete : settle (complete c nodeId b) s with
  | mk result t =>
    cases result with
    | ok u => exact settle_bind_of_ok hcomplete
    | error f => exact settle_bind_of_error hcomplete

end Exec

/-! ## 10. Frames between which an exchange sees no difference -/

/-- The parts of an exchange are the same steps in two frames. -/
structure Frame.SpeaksAlike (c c' : Frame σ) : Prop where
  trace : Exec.trace c' = Exec.trace c
  delta : Exec.delta c' = Exec.delta c
  checkCancelled : Exec.checkCancelled c' = Exec.checkCancelled c
  callTool : Exec.callTool c' = Exec.callTool c
  interrupts : c'.host.interrupts = c.host.interrupts
  lapse : c'.host.lapse = c.host.lapse

namespace Frame.SpeaksAlike

variable {c c' : Frame σ} (h : c.SpeaksAlike c')

include h

theorem traceLogs : Exec.traceLogs c' = Exec.traceLogs c := by
  funext lines
  induction lines with
  | nil => rfl
  | cons line lines ih =>
    unfold Exec.traceLogs
    rw [h.trace, ih]

theorem read {α : Type} (act : StateM Resolver α) : Exec.read c' act = Exec.read c act := by
  unfold Exec.read
  rw [h.traceLogs]

theorem takePieces (nodeId : String) (closed : Bool) (items : List (Except Fault Chunk)) :
    Exec.takePieces c' nodeId closed items = Exec.takePieces c nodeId closed items := by
  induction items with
  | nil =>
    funext r
    unfold Exec.takePieces
    rw [h.interrupts, h.lapse]
  | cons item items ih =>
    funext r
    unfold Exec.takePieces
    rw [h.interrupts, h.delta, ih]

theorem askModel : Exec.askModel c' = Exec.askModel c := by
  funext x messages tools
  unfold Exec.askModel Exec.takeReply
  simp only [h.checkCancelled, h.delta, h.takePieces]

theorem answerCalls (nodeId : String) (tools : ToolSet) (calls : List ToolCall) :
    Exec.answerCalls c' nodeId tools calls = Exec.answerCalls c nodeId tools calls := by
  induction calls with
  | nil => rfl
  | cons call calls ih =>
    unfold Exec.answerCalls Exec.answerCall
    rw [h.checkCancelled, h.trace, h.callTool, ih]

theorem rounds (x : Exec.Exchange σ) (left : Nat) :
    Exec.rounds c' x left = Exec.rounds c x left := by
  induction left with
  | zero =>
    funext messages usage
    unfold Exec.rounds
    rw [h.askModel]
  | succ left ih =>
    funext messages usage
    unfold Exec.rounds
    simp only [h.askModel, h.answerCalls, ih]

end Frame.SpeaksAlike

end Workgraph
