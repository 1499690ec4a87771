import Workgraph.Proofs.Abreast
import Workgraph.Proofs.Reordering
import Workgraph.Proofs.SoundRun

/-!
# Independence of the order of storage

The order in which a graph lists its nodes and its edges means nothing, as long as no id is used
twice and there is one start node at most: the plan is the same, the same is wrong with the graph,
and a run that is answered alike goes the same way.

* `Frame.Answers` says what it means that two runs are answered alike: their hosts may be different
  ones, with worlds of different types, but whatever is asked of both, they answer the same. The ids
  of the runs may differ.
* `Frame.Answers.abreast`: runs that are answered alike keep abreast.
* `SameRun` and `OrderFree` say what does not depend on the order; `orderFree_of_reorders` is the
  main result.
* `Rehearsal.answers` is an example of hosts that answer alike: they look at the events, but not at
  the ids in them.
-/

namespace Workgraph

open Exec

variable {σ τ : Type}

/-! ## 1. Runs that are answered alike -/

/-- **Two runs that are answered alike**: they have the same scripts and settings, and in worlds
that match, their hosts answer the same to whatever they are asked. An event tells each host the id
of its own run. -/
structure Frame.Answers (c : Frame σ) (c' : Frame τ) (R : σ → τ → Prop) : Prop where
  engine : c'.engine = c.engine
  settings : c'.settings = c.settings
  cancelled (w : σ) (w' : τ) : R w w' → c'.host.cancelled w' = c.host.cancelled w
  told (happening : Happening) (w : σ) (w' : τ) : R w w' →
    R (c.host.deliver (c.event happening) w) (c'.host.deliver (c'.event happening) w')
  asked : AnswerAlikeIfAny R c.host.completion c'.host.completion
  waited : AnswerAlike R c.host.interrupts c'.host.interrupts
  lapsed (w : σ) (w' : τ) : R w w' → R (c.host.lapse w) (c'.host.lapse w')
  searched : AnswerAlikeIfAny R c.host.retrieval c'.host.retrieval
  counted : AnswerAlikeIfAny R c.host.usage c'.host.usage
  drew (bound : Nat) : AnswerAlike R (c.host.draw bound) (c'.host.draw bound)

section

variable {R : σ → τ → Prop} {c : Frame σ} {c' : Frame τ} (h : c.Answers c' R)
  (hgraph : c.graph.Alike c'.graph)

include h

theorem Frame.Answers.accordOnModel : c.AccordOnModel c' (Session.Matches R) :=
  servesIfAny_of_matches (fun _ _ hs => hs.1) h.asked

theorem Frame.Answers.accordOnReplies (nodeId : String) :
    c.AccordOnReplies c' nodeId (Session.Matches R) where
  heard _ _ _ hs := hs.withWorld (h.told _ _ _ hs.world)
  waited := serves_of_matches (fun _ _ hs => hs) h.waited
  lapsed hs := hs.withWorld (h.lapsed _ _ hs.world)

include hgraph

theorem Frame.Answers.accord (nodeId : String) : c.Accord c' nodeId (Session.Matches R) where
  graph := hgraph
  engine := h.engine
  settings := h.settings
  state hs := hs.state
  resolver hs := hs.resolver
  remember _ hs := ⟨hs.state, rfl, hs.world⟩
  cancelled hs := h.cancelled _ _ hs.world
  told _ _ hs := hs.withWorld (h.told _ _ _ hs.world)
  searched := servesIfAny_of_matches (fun _ _ hs => hs.1) h.searched
  counted := servesIfAny_of_matches (fun _ _ hs => hs) h.counted
  drew bound := serves_of_matches (fun _ _ hs => hs) (h.drew bound)

/-- Runs that are answered alike keep abreast. -/
theorem Frame.Answers.abreast : c.Abreast c' R where
  graph := hgraph
  settings := h.settings
  cancelled := h.cancelled
  told happening w w' _ := h.told happening w w'
  executes n := execute_follows (h.accord hgraph n.id)
    (asksAlikeIfAny (h.accord hgraph n.id) h.accordOnModel (h.accordOnReplies n.id))
    (permits_matches _)

end

/-! ## 2. What can be seen of a run -/

/-- What a host was asked, without the id of the run. -/
def Deed.unnamed : Deed → Deed
  | .told e => .told { e with executionId := "" }
  | deed => deed

/-- Everything that a run asks of its host, in order, without the id of the run. -/
def Frame.deeds (c : Frame σ) (state : RunState) (world : σ) : Except Fault (List Deed) :=
  (runGraph c.recorded state { world }).map fun p => p.2.contacts.map (·.deed.unnamed)

/-- **Two runs are the same** but for their ids: their results, what they ask of their hosts, and
the worlds in the end. When one of them cannot begin, neither can the other. -/
structure SameRun (c : Frame σ) (c' : Frame τ) (R : σ → τ → Prop) (state : RunState) (w : σ)
    (w' : τ) : Prop where
  result : (runGraph c' state w').map (·.1) =
    (runGraph c state w).map fun p => { p.1 with executionId := c'.executionId }
  deeds : c'.deeds state w' = c.deeds state w
  worlds (p : RunResult × σ) (p' : RunResult × τ) :
    runGraph c state w = .ok p → runGraph c' state w' = .ok p' → R p.2 p'.2

theorem runGraph_id {c : Frame σ} {state : RunState} {w w₁ : σ} {r : RunResult}
    (h : runGraph c state w = .ok (r, w₁)) : r.executionId = c.executionId := by
  unfold runGraph at h
  split at h
  · cases h
  · cases h
    rfl

/-- Records of worlds that match, in which the same was asked. -/
structure Record.Matches (R : σ → τ → Prop) (r : Record σ) (r' : Record τ) : Prop where
  world : R r.world r'.world
  deeds : r'.contacts.map (·.deed.unnamed) = r.contacts.map (·.deed.unnamed)

section

variable {R : σ → τ → Prop}

theorem Record.Matches.note {r : Record σ} {r' : Record τ} (hr : r.Matches R r') {deed deed' : Deed}
    (hdeed : deed'.unnamed = deed.unnamed) {w : σ} {w' : τ} (hw : R w w') :
    Record.Matches R (r.note deed w) (r'.note deed' w') := by
  refine ⟨hw, ?_⟩
  unfold Record.note
  rw [List.map_append, List.map_append, hr.deeds, List.map_singleton, List.map_singleton, hdeed]

theorem AnswerAlike.noting {α : Type} {service : σ → α × σ} {service' : τ → α × τ}
    (h : AnswerAlike R service service') (deed : Deed) :
    AnswerAlike (Record.Matches R) (Record.noting deed service) (Record.noting deed service') := by
  intro r r' hr
  obtain ⟨hanswer, hworld⟩ := h r.world r'.world hr.world
  exact ⟨hanswer, hr.note rfl hworld⟩

theorem AnswerAlikeIfAny.noting {ι α : Type} {service? : Option (ι → σ → α × σ)}
    {service?' : Option (ι → τ → α × τ)} (h : AnswerAlikeIfAny R service? service?')
    (deed : ι → Deed) :
    AnswerAlikeIfAny (Record.Matches R)
      (service?.map fun service q => Record.noting (deed q) (service q))
      (service?'.map fun service q => Record.noting (deed q) (service q)) := by
  cases h with
  | none => exact .none
  | some halike => exact .some fun q => (halike q).noting (deed q)

variable {c : Frame σ} {c' : Frame τ} (h : c.Answers c' R)

include h

/-- Runs that are answered alike are so with records. -/
theorem Frame.Answers.recorded : c.recorded.Answers c'.recorded (Record.Matches R) where
  engine := h.engine
  settings := h.settings
  cancelled _ _ hr := h.cancelled _ _ hr.world
  told happening _ _ hr := by
    have hdeed : (Deed.told (c'.event happening)).unnamed =
        (Deed.told (c.event happening)).unnamed := rfl
    exact hr.note hdeed (h.told happening _ _ hr.world)
  asked := h.asked.noting _
  waited := h.waited.noting _
  lapsed _ _ hr := hr.note rfl (h.lapsed _ _ hr.world)
  searched := h.searched.noting _
  counted := h.counted.noting _
  drew bound := (h.drew bound).noting _

/-- **Runs that are answered alike, in graphs that are read alike, are the same.** -/
theorem Frame.Answers.sameRun (hgraph : c.graph.Alike c'.graph) (state : RunState) {w : σ} {w' : τ}
    (hw : R w w') : SameRun c c' R state w w' where
  result := by
    rcases runGraph_matches (h.abreast hgraph) state hw with
      ⟨hrun, hrun'⟩ | ⟨r, _, _, hrun, hrun', -⟩
    · rw [hrun, hrun']
      rfl
    · rw [hrun, hrun']
      rfl
  deeds := by
    have hrecord : Record.Matches R { world := w } { world := w' } := ⟨hw, rfl⟩
    unfold Frame.deeds
    rcases runGraph_matches (h.recorded.abreast hgraph) state hrecord with
      ⟨hrun, hrun'⟩ | ⟨r, record, record', hrun, hrun', hend⟩
    · rw [hrun, hrun']
      rfl
    · rw [hrun, hrun']
      exact congrArg Except.ok hend.deeds
  worlds p p' hp hp' := by
    rcases runGraph_matches (h.abreast hgraph) state hw with
      ⟨hrun, -⟩ | ⟨r, w₁, w₁', hrun, hrun', hend⟩
    · rw [hrun] at hp
      cases hp
    · rw [hrun] at hp
      rw [hrun'] at hp'
      cases hp
      cases hp'
      exact hend

end

/-! ## 3. Graphs in another order -/

/-- In a graph that is stored in another order runs find the same. -/
theorem Graph.alike_reorder {g g' : Graph} (h : g.Reorders g') (hd : g.Distinct) : g.Alike g' where
  findNode? := findNode?_reorder h hd
  startNode? := startNode?_reorder h hd
  routes := routes_reorder h hd
  edgeInto? := edgeInto?_reorder h hd
  providerEdges := providerEdges_reorder h hd
  length := length_nodes_reorder h

/-- A host answers like itself in a run with the same id. -/
theorem Frame.answers_withGraph (c : Frame σ) (g' : Graph) :
    c.Answers { c with graph := g' } Eq := by
  have hsame {α : Type} (service : σ → α × σ) : AnswerAlike Eq service service := by
    rintro w _ rfl
    exact ⟨rfl, rfl⟩
  have hsameIfAny {ι α : Type} (service? : Option (ι → σ → α × σ)) :
      AnswerAlikeIfAny Eq service? service? := by
    cases service? with
    | none => exact .none
    | some service => exact .some fun q => hsame (service q)
  exact {
    engine := rfl
    settings := rfl
    cancelled := fun _ _ hw => by rw [hw]
    told := fun _ _ _ hw => by rw [hw]; rfl
    asked := hsameIfAny _
    waited := hsame _
    lapsed := fun _ _ hw => by rw [hw]
    searched := hsameIfAny _
    counted := hsameIfAny _
    drew := fun _ => hsame _ }

/-- **What does not depend on the order** in which a graph is stored. -/
structure OrderFree (g g' : Graph) : Prop where
  /-- The plan has the same steps in the same order. -/
  steps : g'.plan.steps = g.plan.steps
  /-- The issues are the same up to order. -/
  issues : g'.issues.Perm g.issues
  /-- A run in the same host with the same id gives the same result and the same world. -/
  rerun {σ : Type} (c : Frame σ) (hgraph : c.graph = g) (state : RunState) (world : σ) :
    runGraph { c with graph := g' } state world = runGraph c state world
  /-- Runs that are answered alike are the same but for their ids. -/
  runs {σ τ : Type} {c : Frame σ} {c' : Frame τ} {R : σ → τ → Prop} (hgraph : c.graph = g)
    (hgraph' : c'.graph = g') (h : c.Answers c' R) (state : RunState) {w : σ} {w' : τ}
    (hw : R w w') : SameRun c c' R state w w'

/-- **Independence of the order of storage.** -/
theorem orderFree_of_reorders {g g' : Graph} (h : g.Reorders g') (hd : g.Distinct) :
    OrderFree g g' where
  steps := Graph.plan_steps_reorder h hd
  issues := Graph.issues_reorder h hd
  rerun c hgraph state world := by
    subst hgraph
    have habreast := (c.answers_withGraph g').abreast (Graph.alike_reorder h hd)
    rcases runGraph_matches habreast state rfl with
      ⟨hrun, hrun'⟩ | ⟨r, w₁, w₁', hrun, hrun', hworld⟩
    · rw [hrun, hrun']
    · have hid : { r with executionId := c.executionId } = r := by rw [← runGraph_id hrun]
      rw [hrun, hrun', hworld]
      exact congrArg (fun r => Except.ok (r, w₁')) hid
  runs hgraph hgraph' hanswers state _ _ hw := by
    subst hgraph hgraph'
    exact hanswers.sameRun (Graph.alike_reorder h hd) state hw

/-! ## 4. Rehearsals -/

namespace Rehearsal

/-- Rehearsals that differ by the ids of runs only, and in which no event cancels a run. -/
def SameButIds (r r' : Rehearsal) : Prop :=
  r.cancelOn = none ∧ ∃ events, r' = { r with events } ∧
    events.map (·.happening) = r.events.map (·.happening)

/-- A service that leaves the events alone does not look at the ids in them. -/
theorem answerAlike {α : Type} {service : Rehearsal → α × Rehearsal}
    (hblind : ∀ r events, service { r with events } =
      ((service r).1, { (service r).2 with events }))
    (hcancelOn : ∀ r, (service r).2.cancelOn = r.cancelOn)
    (hevents : ∀ r, (service r).2.events = r.events) : AnswerAlike SameButIds service service := by
  rintro r _ ⟨hon, events, rfl, hsame⟩
  rw [hblind]
  exact ⟨rfl, (hcancelOn r).trans hon, events, rfl, hsame.trans (by rw [hevents])⟩

theorem complete_answerAlike (q : CompletionRequest) :
    AnswerAlike SameButIds (complete q) (complete q) := by
  refine answerAlike (fun r events => ?_) (fun r => ?_) fun r => ?_
  all_goals
    unfold complete
    dsimp only
    split
    · rfl
    · split <;> rfl

theorem retrieve_answerAlike (q : Search) :
    AnswerAlike SameButIds (retrieve q) (retrieve q) := by
  refine answerAlike (fun r events => ?_) (fun r => ?_) fun r => ?_
  all_goals
    unfold retrieve
    dsimp only
    split
    · rfl
    · split <;> rfl

/-- The cues of a rehearsal do not depend on the id of the run. -/
theorem answers {c c' : Frame Rehearsal} (hengine : c'.engine = c.engine)
    (hsettings : c'.settings = c.settings) {hasModel hasStore hasUsage : Bool}
    (hhost : c.host = host hasModel hasStore hasUsage)
    (hhost' : c'.host = host hasModel hasStore hasUsage) : c.Answers c' SameButIds where
  engine := hengine
  settings := hsettings
  cancelled := by
    rintro r _ ⟨-, events, rfl, -⟩
    rw [hhost, hhost']
    rfl
  told happening := by
    rintro r _ ⟨hon, events, rfl, hevents⟩
    rw [hhost, hhost']
    refine ⟨hon, c'.event happening :: events, ?_, congrArg (happening :: ·) hevents⟩
    simp only [host, deliver, hon, Option.any_none, Bool.or_false]
  asked := by
    rw [hhost, hhost']
    cases hasModel with
    | false => exact .none
    | true => exact .some complete_answerAlike
  waited := by
    rw [hhost, hhost']
    exact answerAlike (fun _ _ => rfl) (fun _ => rfl) fun _ => rfl
  lapsed := by
    rintro r _ ⟨hon, events, rfl, hevents⟩
    rw [hhost, hhost']
    exact ⟨hon, events, rfl, hevents⟩
  searched := by
    rw [hhost, hhost']
    cases hasStore with
    | false => exact .none
    | true => exact .some retrieve_answerAlike
  counted := by
    rw [hhost, hhost']
    cases hasUsage with
    | false => exact .none
    | true => exact .some fun _ => answerAlike (fun _ _ => rfl) (fun _ => rfl) fun _ => rfl
  drew bound := by
    rw [hhost, hhost']
    exact answerAlike (fun _ _ => rfl) (fun _ => rfl) fun _ => rfl

end Rehearsal

/-- A graph stored the other way round. -/
def Graph.reversed (g : Graph) : Graph := { nodes := g.nodes.reverse, edges := g.edges.reverse }

theorem Graph.reorders_reversed (g : Graph) : g.Reorders g.reversed :=
  ⟨g.nodes.reverse_perm, g.edges.reverse_perm⟩

/-- The model says hello. -/
def hello : Rehearsal := { model := [(false, .whole { content := "Hello" })] }

/-- The assistant stored the other way round, in a run with another id. -/
def assistantAgain : Frame Rehearsal :=
  { assistant.reversed.rehearsal with executionId := "again" }

theorem assistant_orderFree : assistant.Reorders assistant.reversed ∧ assistant.Distinct ∧
    OrderFree assistant assistant.reversed ∧
    SameRun assistant.rehearsal assistantAgain Rehearsal.SameButIds {} hello hello ∧
    ((runGraph assistantAgain {} hello).map (·.1.visited)).toOption =
      some ["start", "ask", "end"] := by
  have hdistinct : assistant.Distinct := ⟨by decide, by decide, by decide⟩
  have horder : OrderFree assistant assistant.reversed :=
    orderFree_of_reorders assistant.reorders_reversed hdistinct
  have hanswers : assistant.rehearsal.Answers assistantAgain Rehearsal.SameButIds :=
    Rehearsal.answers rfl rfl rfl rfl
  refine ⟨assistant.reorders_reversed, hdistinct, horder, ?_, by decide +kernel⟩
  exact horder.runs rfl rfl hanswers {} ⟨rfl, [], rfl, rfl⟩

end Workgraph
