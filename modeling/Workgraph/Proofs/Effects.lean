import Workgraph.Proofs.Simulation

/-!
# What a step does to a session

A step of a run reads values, asks its host, and writes to the state by a few operations; it does
nothing else. This file says so for any relation between the session before and the session after a
step.

* `Frame.Admits` says of a relation that it holds across everything that a step does besides writing
  to the state and asking the model; `Allows` says so of writes, `Frame.AdmitsRequests` of the
  model.
* `Exec.Keeps` says that a step stays within a relation, whether it fails or not; `execute_keeps` is
  the lemma for nodes. A step stays within a relation when it goes side by side with itself
  (`Keeps.of_follows`), and steps side by side were gone through before.
-/

namespace Workgraph

variable {σ : Type}

/-! ## 1. Relations between the sessions of one run -/

/-- The request that the model was asked. -/
def Deed.request? : Deed → Option CompletionRequest
  | .asked q => some q
  | _ => none

/-- **A relation that holds across what any step does** besides writing to the state and asking the
model. -/
structure Frame.Admits (c : Frame σ) (R : Session σ → Session σ → Prop) : Prop where
  refl (s : Session σ) : R s s
  trans {s t u : Session σ} : R s t → R t u → R s u
  /-- Values are read, remembered and forgotten. -/
  resolver (s : Session σ) (r : Resolver) : R s { s with resolver := r }
  /-- The host is asked for something. -/
  world {s : Session σ} {deed : Deed} {w : σ} : c.host.Makes ⟨deed, s.world, w⟩ →
    deed.request? = none → R s { s with world := w }

/-- A relation that holds across asking the model. -/
def Frame.AdmitsRequests (c : Frame σ) (R : Session σ → Session σ → Prop) : Prop :=
  ∀ {s : Session σ} {q : CompletionRequest} {w : σ}, c.host.Makes ⟨.asked q, s.world, w⟩ →
    R s { s with world := w }

/-- A relation that holds across some writes. -/
def Allows (R : Session σ → Session σ → Prop) (writes : Operation → Prop) : Prop :=
  ∀ op, writes op → ∀ s, R s (s.write op)

/-- Both sessions are the same one, to which a first session is related. -/
def Session.Since (R : Session σ → Session σ → Prop) (first s s' : Session σ) : Prop :=
  s' = s ∧ R first s

section

variable {c : Frame σ} {R : Session σ → Session σ → Prop} {first : Session σ} (h : c.Admits R)

include h

theorem Session.Since.step {s s' t : Session σ} (hs : Since R first s s') (hstep : R s t) :
    Since R first t t := ⟨rfl, h.trans hs.2 hstep⟩

/-- A service of the host whose use the relation holds across. -/
theorem Frame.Admits.serves {α : Type} {service : σ → α × σ} {P : Session σ → Session σ → Prop}
    (hP : ∀ s s', P s s' → Session.Since R first s s')
    (hservice : ∀ s : Session σ, R s { s with world := (service s.world).2 }) :
    Serves P (Session.Since R first) service service := by
  intro s s' hs
  obtain ⟨rfl, hfirst⟩ := hP s s' hs
  exact ⟨rfl, rfl, h.trans hfirst (hservice _)⟩

theorem Frame.Admits.servesIfAny {ι α : Type} {service? : Option (ι → σ → α × σ)}
    {P : Session σ → Session σ → Prop} (hP : ∀ s s', P s s' → Session.Since R first s s')
    (hservice : ∀ service, service? = some service → ∀ q, ∀ s : Session σ,
      R s { s with world := (service q s.world).2 }) :
    ServesIfAny P (Session.Since R first) service? service? := by
  cases service? with
  | none => exact .none
  | some service => exact .some fun q => h.serves hP (hservice service rfl q)

/-- A frame is in accord with itself. -/
theorem Frame.Admits.accord (nodeId : String) : c.Accord c nodeId (Session.Since R first) where
  graph := .refl _
  engine := rfl
  settings := rfl
  state hs := by rw [hs.1]
  resolver hs := by rw [hs.1]
  remember r hs := by
    rw [hs.1]
    exact hs.step h (h.resolver _ r)
  cancelled hs := by rw [hs.1]
  told _ _ hs := by
    rw [hs.1]
    exact hs.step h (h.world (.told _ _) rfl)
  searched := h.servesIfAny (fun _ _ hs => hs.1) fun _ hsupplied _ _ =>
    h.world (.searched hsupplied _ _) rfl
  counted := h.servesIfAny (fun _ _ hs => hs) fun _ hsupplied _ _ =>
    h.world (.counted hsupplied _ _) rfl
  drew _ := h.serves (fun _ _ hs => hs) fun _ => h.world (.drew _ _) rfl

theorem Frame.Admits.accordOnReplies (nodeId : String) :
    c.AccordOnReplies c nodeId (Session.Since R first) where
  heard _ _ _ hs := by
    rw [hs.1]
    exact hs.step h (h.world (.told _ _) rfl)
  waited := h.serves (fun _ _ hs => hs) fun _ => h.world (.waited _) rfl
  lapsed hs := by
    rw [hs.1]
    exact hs.step h (h.world (.lapsed _) rfl)

theorem Frame.AdmitsRequests.accord (hask : c.AdmitsRequests R) :
    c.AccordOnModel c (Session.Since R first) :=
  h.servesIfAny (fun _ _ hs => hs.1) fun _ hsupplied _ _ => hask (.asked hsupplied _ _)

theorem Allows.permits {writes : Operation → Prop} (hw : Allows R writes) :
    Permits (Session.Since R first) writes := by
  intro op hop s s' hs
  rw [hs.1]
  exact hs.step h (hw op hop s)

end

/-! ## 2. Steps -/

namespace Exec

variable {α β : Type}

/-- A step stays within a relation. -/
def Keeps (R : Session σ → Session σ → Prop) (act : Exec σ α) : Prop := ∀ s, R s (settle act s).2

theorem Keeps.related {R : Session σ → Session σ → Prop} {act : Exec σ α} (h : Keeps R act)
    {s t : Session σ} {x : Except Fault α} (hact : settle act s = (x, t)) : R s t := by
  have hkept := h s
  rwa [hact] at hkept

section

variable {c : Frame σ} {R : Session σ → Session σ → Prop} (h : c.Admits R)

include h

theorem Keeps.of_follows {act : Exec σ α}
    (hact : ∀ first, Follows (Session.Since R first) act act) : Keeps R act :=
  fun s => (hact s s s ⟨rfl, h.refl s⟩).2.2

namespace Keeps

theorem bind {act : Exec σ α} {k : α → Exec σ β} (hact : Keeps R act) (hk : ∀ a, Keeps R (k a)) :
    Keeps R (act >>= k) := by
  intro s
  cases hs : settle act s with
  | mk x s' =>
    have hfirst := hact.related hs
    cases x with
    | ok a =>
      rw [settle_bind_of_ok hs]
      exact h.trans hfirst (hk a s')
    | error f =>
      rw [settle_bind_of_error hs]
      exact hfirst

theorem pure (a : α) : Keeps R (Pure.pure a : Exec σ α) := fun s => h.refl s

theorem ofExcept (x : Except Fault α) : Keeps R (Exec.ofExcept x : Exec σ α) :=
  .of_follows h fun _ => .ofExcept x

theorem trace (message : String) : Keeps R (Exec.trace c message) :=
  .of_follows h fun _ => .trace (h.accord "") message

end Keeps

variable (nodeId : String)

theorem takeReply_keeps (reply : Reply) : Keeps R (takeReply c nodeId reply) :=
  .of_follows h fun _ => takeReply_follows (h.accordOnReplies nodeId) reply

theorem answerCalls_keeps (hw : Allows R Tools.Writes) (tools : ToolSet) (calls : List ToolCall) :
    Keeps R (answerCalls c nodeId tools calls) :=
  .of_follows h fun _ => answerCalls_follows (h.accord nodeId) (hw.permits h) tools calls

theorem gatherTools_keeps (hw : Allows R Tools.Writes) : Keeps R (gatherTools c nodeId) :=
  .of_follows h fun _ => gatherTools_follows (h.accord nodeId) (hw.permits h)

theorem conclude_keeps (b : CompletionBody)
    (hw : Allows R (NodeBody.Writes c nodeId (.completion b))) (prompt : String)
    (ending : String × Option Usage) : Keeps R (conclude c nodeId b prompt ending) :=
  .of_follows h fun _ => conclude_follows (h.accord nodeId) (hw.permits h) prompt ending

theorem requiredScript_keeps (mode : ScriptMode) (source what : String) :
    Keeps R (requiredScript c mode source what) :=
  .of_follows h fun _ => requiredScript_follows (h.accord "") mode source what

theorem valueToWrite_keeps (b : SetVariableBody) : Keeps R (valueToWrite c nodeId b) :=
  .of_follows h fun _ => valueToWrite_follows (h.accord nodeId) b

theorem asksAlikeIfAny_self (hask : c.AdmitsRequests R) (first : Session σ) :
    AsksAlikeIfAny c c nodeId (Session.Since R first) :=
  asksAlikeIfAny (h.accord nodeId) (hask.accord h) (h.accordOnReplies nodeId)

theorem askModel_keeps (hask : c.AdmitsRequests R) {x : Exchange σ}
    (hservice : c.host.completion = some x.complete) (messages : List Message)
    (tools : List ToolDefinition) : Keeps R (askModel c x messages tools) := by
  refine .of_follows h fun first => ?_
  have hasks := asksAlikeIfAny_self h x.nodeId hask first
  unfold AsksAlikeIfAny at hasks
  rw [hservice] at hasks
  cases hasks with
  | some hasks => exact hasks x.body x.tools messages tools

theorem rounds_keeps (hask : c.AdmitsRequests R) (hw : Allows R Tools.Writes)
    {service : CompletionRequest → σ → Arrival Reply × σ} (hsome : c.host.completion = some service)
    (b : CompletionBody) (tools : ToolSet) (left : Nat) (messages : List Message)
    (usage : Option Usage) :
    Keeps R (rounds c ⟨nodeId, b, tools, service⟩ left messages usage) := by
  refine .of_follows h fun first => ?_
  have hasks := asksAlikeIfAny_self h nodeId hask first
  unfold AsksAlikeIfAny at hasks
  rw [hsome] at hasks
  cases hasks with
  | some hasks => exact rounds_follows (h.accord nodeId) (hw.permits h) hasks left messages usage

theorem perform_keeps (hask : c.AdmitsRequests R) {b : NodeBody}
    (hw : Allows R (b.Writes c nodeId)) : Keeps R (perform c nodeId b) :=
  .of_follows h fun _ => perform_follows (h.accord nodeId) (asksAlikeIfAny_self h nodeId hask _)
    (hw.permits h)

/-- **The executor of a node stays within every relation** that holds across what a run does and
across the writes of the node. -/
theorem execute_keeps (hask : c.AdmitsRequests R) {n : Node}
    (hw : Allows R (n.data.body.Writes c n.id)) : Keeps R (execute c n) :=
  .of_follows h fun _ => execute_follows (h.accord n.id) (asksAlikeIfAny_self h n.id hask _)
    (hw.permits h)

end

end Exec

end Workgraph
