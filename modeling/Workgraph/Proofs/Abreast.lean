import Workgraph.Proofs.Course

/-!
# Runs that keep abreast

Two runs in graphs that are read alike keep abreast when their hosts are told the same, are
cancelled alike, and each node does the same in both. Then both runs go the same way to the end.

* `Session.Matches` relates sessions that differ by the worlds of their hosts only.
* `Frame.Abreast` says what two frames must have in common; `runFrom_matches` and `runGraph_matches`
  say what comes of it.
-/

namespace Workgraph

open Exec

variable {σ τ : Type}

/-! ## 1. Sessions in worlds that match -/

/-- Services answer alike in worlds that match, and lead to worlds that match. -/
def AnswerAlike {α : Type} (R : σ → τ → Prop) (service : σ → α × σ) (service' : τ → α × τ) : Prop :=
  ∀ w w', R w w' → (service' w').1 = (service w).1 ∧ R (service w).2 (service' w').2

/-- Both hosts supply a service that takes arguments, or none of them does. -/
def AnswerAlikeIfAny {ι α : Type} (R : σ → τ → Prop) :
    Option (ι → σ → α × σ) → Option (ι → τ → α × τ) → Prop :=
  Option.Rel fun service service' => ∀ q, AnswerAlike R (service q) (service' q)

/-- Sessions that differ by their worlds only, which match. -/
structure Session.Matches (R : σ → τ → Prop) (s : Session σ) (s' : Session τ) : Prop where
  state : s'.state = s.state
  resolver : s'.resolver = s.resolver
  world : R s.world s'.world

section

variable {R : σ → τ → Prop}

theorem Session.Matches.withWorld {s : Session σ} {s' : Session τ} (hs : s.Matches R s') {w : σ}
    {w' : τ} (hw : R w w') : Session.Matches R { s with world := w } { s' with world := w' } :=
  ⟨hs.state, hs.resolver, hw⟩

theorem serves_of_matches {α : Type} {P : Session σ → Session τ → Prop}
    (hP : ∀ s s', P s s' → s.Matches R s') {service : σ → α × σ} {service' : τ → α × τ}
    (h : AnswerAlike R service service') :
    Serves P (Session.Matches R) service service' := by
  intro s s' hs
  obtain ⟨hanswer, hworld⟩ := h s.world s'.world (hP s s' hs).world
  exact ⟨hanswer, (hP s s' hs).withWorld hworld⟩

theorem servesIfAny_of_matches {ι α : Type} {P : Session σ → Session τ → Prop}
    (hP : ∀ s s', P s s' → s.Matches R s') {service? : Option (ι → σ → α × σ)}
    {service?' : Option (ι → τ → α × τ)} (h : AnswerAlikeIfAny R service? service?') :
    ServesIfAny P (Session.Matches R) service? service?' := by
  cases h with
  | none => exact .none
  | some hmatches => exact .some fun q => serves_of_matches hP (hmatches q)

/-- What is written to the state does not depend on the world. -/
theorem permits_matches (writes : Operation → Prop) : Permits (Session.Matches R) writes := by
  intro op _ s s' hs
  exact ⟨congrArg (Operation.write · op) hs.state, hs.resolver, hs.world⟩

end

/-! ## 2. Runs side by side -/

/-- **Two frames that keep abreast** on a relation between their worlds. What is told of a reply
while it is taken is left to the nodes. -/
structure Frame.Abreast (c : Frame σ) (c' : Frame τ) (R : σ → τ → Prop) : Prop where
  graph : c.graph.Alike c'.graph
  settings : c'.settings = c.settings
  cancelled (w : σ) (w' : τ) : R w w' → c'.host.cancelled w' = c.host.cancelled w
  told (happening : Happening) (w : σ) (w' : τ) : happening.delta? = none → R w w' →
    R (c.host.deliver (c.event happening) w) (c'.host.deliver (c'.event happening) w')
  executes (n : Node) : Follows (Session.Matches R) (execute c n) (execute c' n)

theorem RunOutcome.delta?_happening (o : RunOutcome) : o.happening.delta? = none := by
  cases o <;> rfl

section

variable {R : σ → τ → Prop} {c : Frame σ} {c' : Frame τ} (h : c.Abreast c' R)

include h

theorem visit_follows (n : Node) : Follows (Session.Matches R) (visit c n) (visit c' n) := by
  have htold {happening : Happening} (hdelta : happening.delta? = none) :
      Follows (Session.Matches R) (emit c happening) (emit c' happening) :=
    fun _ _ hs => ⟨rfl, hs.withWorld (h.told happening _ _ hdelta hs.world)⟩
  refine .bind (htold rfl) fun _ => .bind (h.executes n) fun t => ?_
  have hrecord : Follows (Session.Matches R) (recordOutput n.id) (recordOutput n.id) :=
    .changeState fun s s' hs => ⟨by rw [hs.state], hs.resolver, hs.world⟩
  refine .bind hrecord fun _ => ?_
  rw [h.graph.next n t]
  exact .look (fun _ _ hs => hs.state) fun s s' hs =>
    Follows.bind (htold rfl) (fun _ => .pure _) s s' hs

/-- **Two runs side by side** go the same way. -/
theorem runFrom_matches (left : Nat) : ∀ (n : Node) {s : Session σ} {s' : Session τ},
    s.Matches R s' → (runFrom c' left n s').1 = (runFrom c left n s).1 ∧
      (runFrom c' left n s').2.1 = (runFrom c left n s).2.1 ∧
      (runFrom c left n s).2.2.Matches R (runFrom c' left n s').2.2 := by
  induction left with
  | zero =>
    intro n s s' hs
    have hcancelled := h.cancelled _ _ hs.world
    unfold runFrom
    rw [hcancelled]
    cases c.host.cancelled s.world with
    | true => exact ⟨rfl, rfl, hs⟩
    | false => exact ⟨rfl, rfl, hs⟩
  | succ left ih =>
    intro n s s' hs
    have hcancelled := h.cancelled _ _ hs.world
    obtain ⟨hresult, hafter⟩ := visit_follows h n s s' hs
    unfold runFrom
    rw [hcancelled]
    cases c.host.cancelled s.world with
    | true => exact ⟨rfl, rfl, hs⟩
    | false =>
      cases hx : settle (visit c n) s with
      | mk x t =>
        cases hx' : settle (visit c' n) s' with
        | mk x' t' =>
          rw [hx, hx'] at hresult hafter
          dsimp only at hresult hafter
          subst hresult
          cases x' with
          | error f => exact ⟨rfl, rfl, hafter⟩
          | ok answer =>
            obtain ⟨transition, next, port⟩ := answer
            -- both runs are asked to stop, end here, or go on at the same node
            have hcancelled' := h.cancelled _ _ hafter.world
            dsimp only
            rw [hcancelled']
            cases c.host.cancelled t.world with
            | true => exact ⟨rfl, rfl, hafter⟩
            | false =>
              cases next with
              | none => exact ⟨rfl, rfl, hafter⟩
              | some m =>
                obtain ⟨houtcome, hvisited, hend⟩ := ih m hafter
                exact ⟨houtcome, congrArg (n.id :: ·) hvisited, hend⟩

/-- Two runs cannot begin, or end alike. -/
theorem runGraph_matches (state : RunState) {w : σ} {w' : τ} (hw : R w w') :
    (runGraph c state w = .error noStartNode ∧ runGraph c' state w' = .error noStartNode) ∨
    ∃ r w₁ w₁', runGraph c state w = .ok (r, w₁) ∧
      runGraph c' state w' = .ok ({ r with executionId := c'.executionId }, w₁') ∧ R w₁ w₁' := by
  unfold runGraph
  rw [h.graph.startNode?]
  cases c.graph.startNode? with
  | none => exact Or.inl ⟨rfl, rfl⟩
  | some start =>
    right
    have hopening : Session.Matches R
        { state, world := c.host.deliver (c.event (.runStarted start.id)) w }
        { state, world := c'.host.deliver (c'.event (.runStarted start.id)) w' } :=
      ⟨rfl, rfl, h.told _ _ _ rfl hw⟩
    obtain ⟨houtcome, hvisited, hend⟩ := runFrom_matches h c.settings.maxSteps start hopening
    refine ⟨_, _, _, rfl, ?_, h.told _ _ _ (RunOutcome.delta?_happening _) hend.world⟩
    rw [h.settings]
    dsimp only [Frame.event] at houtcome hvisited hend ⊢
    rw [houtcome, hvisited, hend.state]

end

end Workgraph
