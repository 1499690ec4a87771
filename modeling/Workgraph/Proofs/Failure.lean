import Workgraph.Proofs.Accounts
import Workgraph.Proofs.Faults
import Workgraph.Proofs.Narration

/-!
# What a failure leaves behind

A node may fail after it has begun its work. This file says what it has written to the state by
then.

* `Exec.FailsAs` relates the fault of a step to the sessions before and after it. Of two steps in a
  row, the first may stay within a relation that is absorbed (`FailsAs.after`), or the second may
  not fail at all (`FailsAs.before`).
* `execute_failsAs` is the lemma for nodes that do not ask the model: each of them writes after all
  that can fail, so a failure leaves the state as it was. `FailsCleanly` says what that means for a
  run, and `failure_atomic` has both.
* A completion node writes payload and conversation when the exchange with the model is finished,
  and reports its usage after that. So there are two ways in which it fails, those of
  `FailedExchange`; `failed_exchange` says that there are no others.
-/

namespace Workgraph

open Exec

variable {σ : Type}

/-! ## 1. Steps that fail -/

/-- A relation between a fault and two sessions also holds when something before the fault, or all
there is, stays within another relation. -/
structure Absorbs (Q : Fault → Session σ → Session σ → Prop) (R : Session σ → Session σ → Prop) :
    Prop where
  within {f : Fault} {s t : Session σ} : R s t → Q f s t
  after {f : Fault} {s t u : Session σ} : R s t → Q f t u → Q f s u

namespace Exec

variable {α β : Type} {Q : Fault → Session σ → Session σ → Prop}
  {R : Session σ → Session σ → Prop} {act : Exec σ α} {k : α → Exec σ β}

/-- A step never fails. -/
def Succeeds (act : Exec σ α) : Prop := FailsOnly (fun _ => False) act

/-- Whenever a step fails, its fault and the sessions before and after it are related. -/
def FailsAs (Q : Fault → Session σ → Session σ → Prop) (act : Exec σ α) : Prop :=
  ∀ s f s', settle act s = (.error f, s') → Q f s s'

namespace FailsAs

theorem of_keeps (hQ : Absorbs Q R) (h : Keeps R act) : FailsAs Q act :=
  fun _ _ _ hs => hQ.within (h.related hs)

theorem of_succeeds (h : Succeeds act) : FailsAs Q act := by
  intro s f s' hs
  unfold settle at hs
  split at hs
  · cases hs
  · next herror => exact (h _ _ _ herror).elim

/-- The first step stays within a relation, whether it fails or not. -/
theorem after (hQ : Absorbs Q R) (h : Keeps R act) (hk : ∀ a, FailsAs Q (k a)) :
    FailsAs Q (act >>= k) := by
  intro s f s' hs
  rcases settle_bind_eq_error hs with hact | ⟨a, t, hact, hrest⟩
  · exact hQ.within (h.related hact)
  · exact hQ.after (h.related hact) (hk a t f s' hrest)

/-- Only the first step fails. -/
theorem before (h : FailsAs Q act) (hk : ∀ a, Succeeds (k a)) : FailsAs Q (act >>= k) := by
  intro s f s' hs
  rcases settle_bind_eq_error hs with hact | ⟨a, t, -, hrest⟩
  · exact h s f s' hact
  · exact (of_succeeds (Q := fun _ _ _ => False) (hk a) t f s' hrest).elim

end FailsAs

/-! ## 2. Nodes that do not ask the model -/

theorem absorbs_sameState (c : Frame σ) : Absorbs (fun _ => Session.SameState) (σ := σ)
    Session.SameState where
  within h := h
  after := c.admits_sameState.trans

variable (c : Frame σ) (nodeId : String)

/-- The path is looked at last, before the variables are written. -/
theorem writeVariable_failsAs (b : SetVariableBody) :
    FailsAs (fun _ => Session.SameState) (writeVariable c nodeId b) := by
  have hsame := c.admits_sameState
  have habsorbs := absorbs_sameState c
  refine .after habsorbs (valueToWrite_keeps hsame nodeId b) fun v => ?_
  refine .after habsorbs (fun _ => rfl) fun s => ?_
  refine .before (.of_keeps habsorbs (.ofExcept hsame _)) fun state => ?_
  exact .bind (.changeState _) fun _ _ => .forget

/-- Bodies that write do so in the end; the others write nothing at all. -/
theorem perform_failsAs (b : NodeBody) (h : ∀ b', b ≠ .completion b') :
    FailsAs (fun _ => Session.SameState) (perform c nodeId b) := by
  have hsame := c.admits_sameState
  have habsorbs := absorbs_sameState c
  cases b with
  | completion b => exact absurd rfl (h b)
  | transform b =>
    refine .after habsorbs (requiredScript_keeps hsame _ _ _) fun v => .of_succeeds ?_
    exact .bind (.changeState _) fun _ _ => .pure _
  | getVariable b =>
    refine .after habsorbs (.ofExcept hsame _) fun path => .of_succeeds ?_
    exact .bind .state fun _ _ => .bind (.changeState _) fun _ _ => .pure _
  | setVariable b => exact .before (writeVariable_failsAs c nodeId b) fun _ => .pure _
  | contextMessage b =>
    exact .before (.of_succeeds (addFragment_failsOnly c nodeId b)) fun _ => .pure _
  | _ =>
    exact .of_keeps habsorbs (perform_keeps hsame nodeId (fun _ => rfl) fun _ hop => hop.elim)

/-- **A node that does not ask the model and fails leaves the state as it was.** -/
theorem execute_failsAs (n : Node) (h : ∀ b, n.data.body ≠ .completion b) :
    FailsAs (fun _ => Session.SameState) (execute c n) := by
  have hsame := c.admits_sameState
  have habsorbs := absorbs_sameState c
  refine .after habsorbs (.trace hsame _) fun _ => ?_
  split
  · exact .of_keeps habsorbs (.bind hsame (.trace hsame _) fun _ => .pure hsame _)
  · exact perform_failsAs c n.id n.data.body h

end Exec

/-! ## 3. Runs -/

/-- The state after a node, in the event that the node is finished. -/
def RunEvent.stateAfter? (e : RunEvent) : Option RunState :=
  match e.happening with
  | .nodeFinished _ _ _ _ state => some state
  | _ => none

/-- The state in the last of some events that a node is finished. -/
def lastFinished? (es : List RunEvent) : Option RunState :=
  (es.filterMap RunEvent.stateAfter?).getLast?

namespace Stay

/-- The executor of the node did not fail, or does not ask the model. -/
def FailsBare (c : Frame σ) (v : Stay σ) : Prop :=
  ∀ f, v.answer c = .error f → ∀ b, v.node.data.body ≠ .completion b

/-- The state in which the node is finished. -/
def finished? (c : Frame σ) (v : Stay σ) : Option RunState :=
  match v.answer c with
  | .ok _ => some (v.left c).state
  | .error _ => none

variable {c : Frame σ} {v : Stay σ}

theorem finished?_of_ok {t : Transition} (h : v.answer c = .ok t) :
    v.finished? c = some (v.left c).state := by
  unfold finished?
  rw [h]

theorem finished?_of_error {f : Fault} (h : v.answer c = .error f) : v.finished? c = none := by
  unfold finished?
  rw [h]

theorem left_state_of_error {f : Fault} (h : v.answer c = .error f) (hbare : v.FailsBare c) :
    (v.left c).state = v.reached.state := by
  rw [v.left_of_error h]
  exact execute_failsAs c v.node (hbare f h) (entering c v.node v.reached) f _ (Prod.ext h rfl)

/-- The story of a stay tells the state in which its node is finished. -/
theorem filterMap_story (c : Frame σ) (v : Stay (Record σ)) :
    (v.story c).filterMap RunEvent.stateAfter? = (v.finished? c.recorded).toList := by
  have htold : (v.told c).filterMap RunEvent.stateAfter? = [] := by
    refine List.filterMap_eq_nil_iff.mpr fun e he => ?_
    have hwithin := (v.told_within c he).2
    unfold RunEvent.stateAfter?
    split
    · next hhappening =>
      rw [hhappening] at hwithin
      exact hwithin.elim
    · rfl
  unfold story
  rw [List.filterMap_append, List.filterMap_cons_none rfl, htold, List.nil_append]
  unfold ending finished?
  cases v.answer c.recorded <;> rfl

end Stay

namespace Course

variable {c : Frame σ} {left : Nat} {v : Stay σ} {vs : List (Stay σ)} {o : RunOutcome}
  {s : Session σ}

theorem getLast?_cons_of_mem {w : Stay σ} (h : w ∈ vs.getLast?) : w ∈ (v :: vs).getLast? := by
  rw [List.getLast?_cons, Option.mem_def.mp h]
  rfl

/-- The state in the end is the one in which the last node was finished. -/
theorem state_eq (h : Course c left v vs o s) (hbare : ∀ w ∈ vs.getLast?, w.FailsBare c) :
    s.state = (vs.filterMap (Stay.finished? c)).getLast?.getD v.reached.state := by
  induction h with
  | cancelled => rfl
  | exhausted => rfl
  | failed _ answer =>
    rw [List.filterMap_cons_none (Stay.finished?_of_error answer)]
    exact Stay.left_state_of_error answer (hbare _ rfl)
  | interrupted _ answer =>
    rw [List.filterMap_cons_some (Stay.finished?_of_ok answer)]
    rfl
  | ended _ answer =>
    rw [List.filterMap_cons_some (Stay.finished?_of_ok answer)]
    rfl
  | passes _ answer _ _ _ ih =>
    rw [List.filterMap_cons_some (Stay.finished?_of_ok answer), List.getLast?_cons,
      ih fun w hw => hbare w (getLast?_cons_of_mem hw)]
    rfl

/-- A run fails because the executor of its last node did, or because it is too long. -/
theorem failed_cases {id message : String} (h : Course c left v vs o s)
    (ho : o = .failed id message) :
    (∃ w ∈ vs.getLast?, ∃ f, w.node.id = id ∧ w.answer c = .error f ∧ f ≠ .cancelled ∧
      f.message = message) ∨
    (vs.length = left ∧ (∀ w ∈ vs, ∃ t, w.answer c = .ok t) ∧
      message = "execution limit reached") := by
  induction h with
  | cancelled => cases ho
  | exhausted =>
    cases ho
    exact .inr ⟨rfl, fun _ hw => absurd hw List.not_mem_nil, rfl⟩
  | @failed _ v f _ answer =>
    unfold RunOutcome.ofFault at ho
    split at ho
    · cases ho
    · next hcancelled =>
      cases ho
      refine .inl ⟨v, rfl, f, rfl, answer, fun hf => hcancelled ?_, rfl⟩
      rw [hf]
      rfl
  | interrupted => cases ho
  | @ended _ _ t =>
    unfold RunOutcome.atEnd at ho
    split at ho <;> cases ho
  | @passes _ v t _ _ vs _ _ _ answer _ _ _ ih =>
    rcases ih ho with ⟨w, hlast, hfailed⟩ | ⟨hlength, hanswered, hmessage⟩
    · exact .inl ⟨w, getLast?_cons_of_mem hlast, hfailed⟩
    · refine .inr ⟨congrArg (· + 1) hlength, fun w hw => ?_, hmessage⟩
      rcases List.mem_cons.mp hw with rfl | hw
      · exact ⟨t, answer⟩
      · exact hanswered w hw

end Course

/-- **How a run fails**, and with which state. -/
structure FailsCleanly (c : Frame σ) (state : RunState) (r : RunResult) (record : Record σ)
    (stays : List (Stay (Record σ))) : Prop where
  /-- A run that fails, fails at its last node and with the fault of the executor, unless it may
  execute no further node. -/
  failed (id message : String) : r.outcome = .failed id message →
    (∃ v ∈ stays.getLast?, ∃ f, v.node.id = id ∧ v.answer c.recorded = .error f ∧
      f ≠ .cancelled ∧ f.message = message) ∨
    (stays.length = c.settings.maxSteps ∧ (∀ v ∈ stays, ∃ t, v.answer c.recorded = .ok t) ∧
      message = "execution limit reached")
  /-- When the last node did not fail, or does not ask the model, the result has the state of the
  last event that a node is finished, or the initial state if there is no such event. -/
  kept : (∀ v ∈ stays.getLast?, v.FailsBare c.recorded) →
    r.state = (lastFinished? record.events).getD state

/-- **Failures are atomic** at all nodes that do not ask the model: the executor leaves the state as
it was, and so does a run in which it fails. -/
theorem failure_atomic (c : Frame σ) :
    (∀ (n : Node) (s s' : Session σ) (f : Fault), (∀ b, n.data.body ≠ .completion b) →
      settle (execute c n) s = (.error f, s') → s'.state = s.state) ∧
    ∀ (start : Node) (state : RunState) (world : σ), c.graph.startNode? = some start →
      ∃ r record stays, RecordedRun c start state world r record stays ∧
        FailsCleanly c state r record stays := by
  refine ⟨fun n s s' f hbody h => execute_failsAs c n hbody s f s' h, ?_⟩
  intro start state world hstart
  obtain ⟨r, record, stays, hrun⟩ := exists_recordedRun hstart state world
  obtain ⟨s, hcourse, hstate, -⟩ := hrun.course
  refine ⟨r, record, stays, hrun, fun id message ho => hcourse.failed_cases ho, fun hbare => ?_⟩
  have hfinished : record.events.filterMap RunEvent.stateAfter? =
      stays.filterMap (Stay.finished? c.recorded) := by
    have hend : (c.event r.outcome.happening).stateAfter? = none := by
      cases r.outcome <;> rfl
    rw [hrun.events, List.filterMap_append, List.filterMap_cons_none rfl,
      List.filterMap_cons_none hend, List.filterMap_flatMap]
    simp only [Stay.filterMap_story, List.filterMap_nil, List.append_nil]
    exact (List.filterMap_eq_flatMap_toList _ _).symm
  unfold lastFinished?
  rw [hstate, hcourse.state_eq hbare, hfinished]
  rfl

/-- A node that writes to a path with a blank segment. -/
def misnamer : Node := ⟨"set", .setVariable, ⟨"Set", "", false, .setVariable { path := "a..b" }⟩⟩

/-- A run comes to that node from the start. -/
def misnamed : Graph :=
  { nodes := [⟨"start", .start, .initial .start⟩, misnamer]
    edges := [{ id := "1", source := "start", target := "set" }] }

theorem misnamed_failsCleanly :
    (∃ f s', settle (execute misnamed.trial misnamer) { state := {}, world := {} } =
      (.error f, s') ∧ s'.state = {}) ∧
    ∃ start, misnamed.startNode? = some start ∧ ∃ r record stays,
      RecordedRun misnamed.trial start {} {} r record stays ∧
        FailsCleanly misnamed.trial {} r record stays := by
  obtain ⟨hnode, hrun⟩ := failure_atomic misnamed.trial
  have hfails : (settle (execute misnamed.trial misnamer) { state := {}, world := {} }).1 =
    .error (.badPath "a..b" .blankSegment) := by decide +kernel
  refine ⟨⟨_, _, Prod.ext hfails rfl, ?_⟩, _, rfl, hrun _ _ _ rfl⟩
  exact hnode misnamer _ _ _ (fun _ hbody => nomatch hbody) (Prod.ext hfails rfl)

/-! ## 4. Nodes that ask the model -/

/-- Payload and conversation stay as they are. -/
def Session.SameDialogue (s s' : Session σ) : Prop :=
  s'.state.payload = s.state.payload ∧ s'.state.conversation = s.state.conversation

theorem Frame.admits_sameDialogue (c : Frame σ) : c.Admits Session.SameDialogue where
  refl _ := ⟨rfl, rfl⟩
  trans h h' := ⟨h'.1.trans h.1, h'.2.trans h.2⟩
  resolver _ _ := ⟨rfl, rfl⟩
  world _ _ := ⟨rfl, rfl⟩

/-- Tools write to the variables and to the context. -/
theorem allows_sameDialogue : Allows (Session.SameDialogue (σ := σ)) Tools.Writes := by
  intro op hop s
  cases op with
  | setVar path v =>
    unfold Session.SameDialogue Session.write
    rcases Operation.write_setVar_cases path v s.state with ⟨-, hw⟩ | ⟨-, members, hw⟩
    · rw [hw]
      exact ⟨rfl, rfl⟩
    · rw [hw]
      exact ⟨rfl, rfl⟩
  | pushContext f => exact ⟨rfl, rfl⟩
  | _ => exact hop.elim

/-- The turns of an exchange: the user's, if there is a prompt, and the assistant's. -/
def turnsOf (prompt text : String) : List Turn :=
  (if prompt.isEmpty then [] else [{ role := .user, content := prompt }]) ++
    [{ role := .assistant, content := text }]

/-- The state when an exchange is finished. -/
def RunState.afterExchange (s : RunState) (prompt text : String) : RunState :=
  { s with payload := .string text, conversation := s.conversation ++ turnsOf prompt text }

/-- **How a completion node fails.** -/
inductive FailedExchange (c : Frame σ) (nodeId : String) (b : CompletionBody) (f : Fault)
    (s s' : Session σ) : Prop
  /-- Before the exchange is finished: payload and conversation are as they were. -/
  | unfinished (kept : s.SameDialogue s')
  /-- After the exchange, with the fault with which the host refuses to record its usage: the last
  text is the payload, and its turns are in the conversation. -/
  | unrecorded {service : CompletionRequest → σ → Arrival Reply × σ}
      {record : UsageRecord → σ → Except Fault Unit × σ} {tools : ToolSet}
      {first last : Session σ} {text : String} {usage : Usage}
      (asks : c.host.completion = some service) (counts : c.host.usage = some record)
      (opened : s.SameDialogue first)
      (finished : settle (rounds c ⟨nodeId, b, tools, service⟩
        (b.maxToolRounds.getD c.settings.completion.maxToolRounds)
        (b.openingMessages first.state s.state.payload.asPrompt) none) first =
          (.ok (text, some usage), last))
      (refused : record { model := b.model, usage }
        (c.host.deliver (c.event (.usage nodeId b.model usage)) last.world) = (.error f, s'.world))
      (payload : s'.state.payload = .string text)
      (conversation : s'.state.conversation =
        s.state.conversation ++ turnsOf s.state.payload.asPrompt text)

namespace Exec

variable {c : Frame σ} {nodeId : String} {b : CompletionBody}

theorem absorbs_sameDialogue : Absorbs (FailedExchange c nodeId b) Session.SameDialogue where
  within := .unfinished
  after := by
    intro f s t u h hfailed
    cases hfailed with
    | unfinished kept => exact .unfinished (c.admits_sameDialogue.trans h kept)
    | unrecorded asks counts opened finished refused payload conversation =>
      rw [h.1] at finished conversation
      rw [h.2] at conversation
      exact .unrecorded asks counts (c.admits_sameDialogue.trans h opened) finished refused payload
        conversation

/-- Usage is reported in vain if the host refuses to record it. -/
theorem reportUsage_eq_error {model : String} {usage : Option Usage} {s s' : Session σ} {f : Fault}
    (h : settle (reportUsage c nodeId model usage) s = (.error f, s')) :
    ∃ record u, c.host.usage = some record ∧ usage = some u ∧ s'.state = s.state ∧
      record { model, usage := u } (c.host.deliver (c.event (.usage nodeId model u)) s.world) =
        (.error f, s'.world) := by
  cases usage with
  | none => cases h
  | some u =>
    rcases settle_bind_eq_error h with hemit | ⟨_, t, hemit, hrecord⟩
    · cases hemit
    cases hemit
    cases hcounts : c.host.usage with
    | none =>
      rw [hcounts] at hrecord
      cases hrecord
    | some record =>
      rw [hcounts] at hrecord
      rcases settle_bind_eq_error hrecord with hask | ⟨answer, t, hask, hanswer⟩
      · cases hask
      obtain ⟨hrefused, rfl⟩ := Prod.mk.inj hask
      cases answer with
      | ok _ => cases hanswer
      | error g =>
        cases hanswer
        exact ⟨record, u, rfl, rfl, rfl, Prod.ext (Except.ok.inj hrefused) rfl⟩

/-- What follows an exchange can fail only when its usage is reported. -/
theorem settle_conclude (prompt text : String) (usage : Option Usage) (s : Session σ) :
    settle (conclude c nodeId b prompt (text, usage)) s =
      settle (reportUsage c nodeId b.model usage)
        { s with state := s.state.afterExchange prompt text } := by
  unfold RunState.afterExchange turnsOf
  rw [← List.append_assoc]
  rfl

theorem consult_failsAs {service : CompletionRequest → σ → Arrival Reply × σ}
    (hsome : c.host.completion = some service) (tools : ToolSet) :
    FailsAs (FailedExchange c nodeId b) (consult c nodeId b service tools) := by
  intro s f s' h
  have hlook : settle (state : Exec σ RunState) s = (.ok s.state, s) := rfl
  have hkeeps := rounds_keeps c.admits_sameDialogue nodeId (fun _ => ⟨rfl, rfl⟩)
    allows_sameDialogue hsome b tools
  unfold consult at h
  rw [settle_bind_of_ok hlook] at h
  rcases settle_bind_eq_error h with hrounds | ⟨⟨text, usage⟩, t, hrounds, hreport⟩
  · exact .unfinished ((hkeeps _ _ _).related hrounds)
  · have hkept := (hkeeps _ _ _).related hrounds
    rw [settle_conclude] at hreport
    obtain ⟨record, total, hcounts, rfl, hstate, hrefused⟩ := reportUsage_eq_error hreport
    refine .unrecorded hsome hcounts ⟨rfl, rfl⟩ hrounds hrefused (by rw [hstate]; rfl) ?_
    rw [hstate, ← hkept.2]
    rfl

theorem complete_failsAs : FailsAs (FailedExchange c nodeId b) (complete c nodeId b) := by
  have hsame := c.admits_sameDialogue
  cases hsome : c.host.completion with
  | none =>
    unfold complete
    rw [hsome]
    exact .of_keeps absorbs_sameDialogue fun s => hsame.refl s
  | some service =>
    rw [complete_eq hsome]
    exact .after absorbs_sameDialogue (gatherTools_keeps hsame nodeId allows_sameDialogue)
      (consult_failsAs hsome)

/-- **Completion nodes fail in one of two ways**, whatever the model replies and the tools do. -/
theorem failed_exchange {n : Node} (hbody : n.data.body = .completion b) {s s' : Session σ}
    {f : Fault} (h : settle (execute c n) s = (.error f, s')) : FailedExchange c n.id b f s s' := by
  have hsame := c.admits_sameDialogue
  have hfails : FailsAs (FailedExchange c n.id b) (execute c n) := by
    refine .after absorbs_sameDialogue (.trace hsame _) fun _ => ?_
    split
    · exact .of_keeps absorbs_sameDialogue (.bind hsame (.trace hsame _) fun _ => .pure hsame _)
    · rw [hbody]
      exact .before complete_failsAs fun _ => .pure _
  exact hfails s f s' h

end Exec

/-- A completion node without tools. -/
def soliloquy : Node := ⟨"ask", .completion, .initial .completion⟩

/-- A graph with that node only. -/
def monologue : Graph := { nodes := [soliloquy] }

/-- The reply ends in the middle because the run is cancelled. -/
def brokenOff : Session Rehearsal :=
  { state := { payload := .string "Hi" }
    world := { model := [(false, .stall [.ok (.text "Hel")])] } }

theorem soliloquy_failedExchange :
    ∃ s', settle (execute monologue.rehearsal soliloquy) brokenOff = (.error .cancelled, s') ∧
      FailedExchange monologue.rehearsal "ask" {} .cancelled brokenOff s' := by
  have hfails : (settle (execute monologue.rehearsal soliloquy) brokenOff).1 =
    .error .cancelled := by decide +kernel
  exact ⟨_, Prod.ext hfails rfl, failed_exchange rfl (Prod.ext hfails rfl)⟩

/-- The model replies, and the host does not record the usage. -/
def unpaid : Session Rehearsal :=
  { state := { payload := .string "Hi" }
    world := { model := [(false, .whole { content := "Hello", usage := some {} })]
               usageFault := some (.usage "disk full") } }

/-- The dialogue can go on although the node fails. -/
theorem dialogue_written : ¬ ∀ (c : Frame Rehearsal) (n : Node) (b : CompletionBody)
    (s s' : Session Rehearsal) (f : Fault), n.data.body = .completion b →
    settle (execute c n) s = (.error f, s') → s.SameDialogue s' := by
  intro h
  have hfails : (settle (execute monologue.rehearsal soliloquy) unpaid).1 =
    .error (.usage "disk full") := by decide +kernel
  have hsame := h monologue.rehearsal soliloquy _ unpaid _ _ rfl (Prod.ext hfails rfl)
  exact absurd hsame.1 (by decide +kernel)

end Workgraph
