import Workgraph.Proofs.Recall
import Workgraph.Proofs.Rounds

/-!
# A transform on the chain and on demand

A transform may stand on the chain of control, where its value becomes the payload, or be read by
others, who are given its value. This file compares the two for one that reads the payload.

* `Exec.payloadAfter` and `Frame.firstRead?` are the two ways to the value; `valueOf?` reads a
  payload as a value on demand, where null and a failure are no value.
* On the chain the source is trimmed, on demand it is taken as it stands. So the ways agree where
  the engine gives the same for both texts, and nowhere else: `Regimes` says this, and
  `transform_regimes` is the result.
* A blank counts as part of the source on demand, also against the limit on its length. A source
  that just fits gives its value on the chain, and nothing on demand when it is padded
  (`paddedTruth_disagrees`).
-/

namespace Workgraph

open Exec

variable {σ : Type}

/-! ## 1. Two ways to the value of a node -/

/-- The payload after a node was executed on the chain, or why it failed. -/
def Exec.payloadAfter (c : Frame σ) (n : Node) (s : Session σ) : Except Fault Json :=
  (settle (execute c n) s).1.map fun _ => (settle (execute c n) s).2.state.payload

/-- The value that a node provides at a state when nothing is remembered. -/
def Frame.firstRead? (c : Frame σ) (n : Node) (s : RunState) : Option Json :=
  (Resolver.value? c.engine c.graph s n.id {}).1

/-- What the engine gives for a source in the mode of a transform, over the payload. -/
def Frame.outcome (c : Frame σ) (b : TransformBody) (s : RunState) (source : String) :
    ScriptOutcome := c.engine.run b.mode source (.ofState s s.payload)

/-- A payload as a value on demand: null is no value, and neither is a failure. -/
def valueOf? (x : Except Fault Json) : Option Json := x.toOption.bind Json.nonNull?

/-- A transform that reads the payload and is not muted. -/
structure Graph.HoldsLoose (g : Graph) (n : Node) (b : TransformBody) : Prop where
  found : g.findNode? n.id = some n
  type : n.type = .transform
  body : n.data.body = .transform b
  runs : n.data.muted = false
  unwired : g.edgeInto? n.id PortId.input = none

theorem valueOf?_result (o : ScriptOutcome) : valueOf? o.result = o.valueOrNull.nonNull? := by
  unfold ScriptOutcome.result ScriptOutcome.valueOrNull
  cases o.error with
  | none => rfl
  | some message => rfl

theorem Json.nonNull?_inj {v w : Json} (h : v.nonNull? = w.nonNull?) : v = w := by
  cases v <;> cases w <;> first | rfl | exact Option.some.inj h | cases h

/-! ## 2. The chain -/

namespace Exec

variable (c : Frame σ)

theorem settle_script (mode : ScriptMode) (source : String) (s : Session σ) :
    ∃ w, settle (script c mode source) s =
      ((c.engine.run mode source (.ofState s.state s.state.payload)).result,
        { s with world := w }) := by
  have hstate : settle (state : Exec σ RunState) s = (.ok s.state, s) := rfl
  let outcome := c.engine.run mode source (.ofState s.state s.state.payload)
  obtain ⟨w, hw⟩ := settle_traceLogs (c := c) outcome.logs s
  refine ⟨w, ?_⟩
  unfold script
  rw [settle_bind_of_ok hstate, settle_bind_of_ok hw]
  show settle (ofExcept outcome.result) _ = (outcome.result, _)
  cases outcome.result <;> rfl

/-- What a script over the payload gives, when it must not be blank. -/
theorem settle_requiredScript (mode : ScriptMode) (source what : String) (s : Session σ) :
    ∃ w, settle (requiredScript c mode source what) s =
      ((required source what).bind fun text =>
        (c.engine.run mode text (.ofState s.state s.state.payload)).result,
        { s with world := w }) := by
  unfold requiredScript
  cases hrequired : required source what with
  | error f => exact ⟨s.world, rfl⟩
  | ok text =>
    have htext : settle (ofExcept (.ok text) : Exec σ String) s = (.ok text, s) := rfl
    rw [settle_bind_of_ok htext]
    exact settle_script c mode text s

/-- **On the chain** a transform puts the value of its trimmed source into the payload. -/
theorem payloadAfter_transform {n : Node} {b : TransformBody} (hbody : n.data.body = .transform b)
    (hruns : n.data.muted = false) (s : Session σ) :
    payloadAfter c n s = (required b.source "transform source").bind fun source =>
      (c.outcome b s.state source).result := by
  obtain ⟨w, htrace⟩ : ∃ w, settle (trace c (n.displayName ++ " (" ++ n.type.name ++ ")")) s =
    (.ok (), { s with world := w }) := ⟨_, rfl⟩
  obtain ⟨w', hscript⟩ : ∃ w', settle (requiredScript c b.mode b.source "transform source")
      { s with world := w } =
      ((required b.source "transform source").bind fun source =>
          (c.outcome b s.state source).result,
        { s with world := w' }) :=
    settle_requiredScript c b.mode b.source "transform source" { s with world := w }
  unfold payloadAfter execute
  rw [settle_bind_of_ok htrace, hruns, if_neg Bool.false_ne_true, hbody]
  unfold perform
  cases hx : (required b.source "transform source").bind fun source =>
      (c.outcome b s.state source).result with
  | error f =>
    rw [hx] at hscript
    rw [settle_bind_of_error hscript]
    rfl
  | ok v =>
    rw [hx] at hscript
    rw [settle_bind_of_ok hscript]
    rfl

theorem payloadAfter_of_required {n : Node} {b : TransformBody} {text : String}
    (hbody : n.data.body = .transform b) (hruns : n.data.muted = false)
    (htext : required b.source "transform source" = .ok text) (s : Session σ) :
    payloadAfter c n s = (c.outcome b s.state text).result := by
  rw [payloadAfter_transform c hbody hruns, htext]
  rfl

end Exec

/-! ## 3. On demand -/

/-- **On demand** a transform gives the value of its source as it stands. -/
theorem firstRead?_transform {c : Frame σ} {n : Node} {b : TransformBody}
    (h : c.graph.HoldsLoose n b) (s : RunState) :
    c.firstRead? n s = (c.outcome b s b.source).valueOrNull.nonNull? := by
  have hpure : n.type.isPure = true := by rw [h.type]; rfl
  have hinput : c.graph.inputOf c.engine s [] n.id = s.payload := by
    unfold Graph.inputOf
    rw [h.unwired]
  unfold Frame.firstRead?
  rw [Resolver.value?_of_empty rfl, Graph.provides?_of_found List.not_mem_nil h.found, if_pos hpure,
    hinput, h.body]
  rfl

/-! ## 4. The engine of this library -/

/-- Trimming leaves nothing but blanks of a blank text. -/
theorem Text.isAllBlank_trim {s : String} (h : isAllBlank s = true) :
    isAllBlank (trim s) = true := by
  unfold isAllBlank at h ⊢
  unfold trim dropStart dropEnd
  rw [String.toList_ofList, List.all_reverse]
  rw [List.all_eq_true] at h ⊢
  intro c hc
  have hreverse := (List.dropWhile_sublist _).mem hc
  exact h c ((List.dropWhile_sublist _).mem (List.mem_reverse.mp hreverse))

section

variable (limits : ScriptLimits) (mode : ScriptMode) {source : String} (view : ScriptView)

theorem ScriptEngine.run_limited (source : String) :
    (limited limits).run mode source view = Script.evaluate limits mode source view [] := by
  cases mode <;> rfl

theorem ScriptEngine.limited_of_blank (h : Text.isAllBlank source = true) :
    ((limited limits).run mode source view).valueOrNull = .null := by
  rw [run_limited]
  unfold Script.evaluate
  rw [if_pos h]
  rfl

theorem ScriptEngine.limited_of_long (h : limits.sourceBytes < source.utf8ByteSize) :
    ((limited limits).run mode source view).valueOrNull = .null := by
  rw [run_limited]
  unfold Script.evaluate
  split
  · rfl
  · rw [if_pos h]
    rfl

/-- A source that fits is put into the text that is run. -/
theorem ScriptEngine.limited_of_fits (hblank : Text.isAllBlank source = false)
    (h : source.utf8ByteSize ≤ limits.sourceBytes) : (limited limits).run mode source view =
      Script.evaluateText limits (Script.wrapped mode source view []) := by
  rw [run_limited]
  unfold Script.evaluate
  rw [hblank, if_neg Bool.false_ne_true, if_neg (Nat.not_lt_of_le h)]
  rfl

end

/-- **A transform on the chain and on demand**, where scripts have some limits. -/
structure Regimes (c : Frame σ) (limits : ScriptLimits) (n : Node) (b : TransformBody)
    (s : Session σ) : Prop where
  /-- On the chain the source must not be blank, and is trimmed. -/
  chain : payloadAfter c n s = (required b.source "transform source").bind fun source =>
    (c.outcome b s.state source).result
  /-- On demand it is taken as it stands. -/
  demand : c.firstRead? n s.state = (c.outcome b s.state b.source).valueOrNull.nonNull?
  /-- The two agree where both texts give the same, and nowhere else. -/
  agree : c.firstRead? n s.state = valueOf? (payloadAfter c n s) ↔
    (c.outcome b s.state b.source).valueOrNull =
      (c.outcome b s.state (Text.trim b.source)).valueOrNull
  /-- So they do on a source without blanks around it. -/
  bare : Text.trim b.source = b.source → c.firstRead? n s.state = valueOf? (payloadAfter c n s)
  /-- Blanks count against the limit on demand. -/
  tooLong : limits.sourceBytes < b.source.utf8ByteSize → c.firstRead? n s.state = none

theorem transform_regimes {c : Frame σ} {limits : ScriptLimits}
    (hengine : c.engine = .limited limits) {n : Node} {b : TransformBody}
    (h : c.graph.HoldsLoose n b) (s : Session σ) :
    Regimes c limits n b s := by
  have hchain := payloadAfter_transform c h.body h.runs s
  have hdemand := firstRead?_transform h s.state
  have hvalue : valueOf? (payloadAfter c n s) =
      (c.outcome b s.state (Text.trim b.source)).valueOrNull.nonNull? := by
    rw [hchain]
    unfold required
    cases hblank : Text.isAllBlank b.source with
    | true =>
      unfold Frame.outcome
      rw [hengine, ScriptEngine.limited_of_blank _ _ _ (Text.isAllBlank_trim hblank)]
      rfl
    | false => exact valueOf?_result _
  have hagree : c.firstRead? n s.state = valueOf? (payloadAfter c n s) ↔
      (c.outcome b s.state b.source).valueOrNull =
        (c.outcome b s.state (Text.trim b.source)).valueOrNull := by
    rw [hdemand, hvalue]
    exact ⟨Json.nonNull?_inj, congrArg Json.nonNull?⟩
  refine ⟨hchain, hdemand, hagree, fun htrim => hagree.mpr (by rw [htrim]), fun hlong => ?_⟩
  rw [hdemand]
  unfold Frame.outcome
  rw [hengine, ScriptEngine.limited_of_long _ _ _ hlong]
  rfl

/-! ## 5. A source that just fits -/

namespace Script

/-- What the characters of a whole text give. -/
def evaluateCharacters (limits : ScriptLimits) (cs : List Char) : ScriptOutcome :=
  let script? : Option Program := do
    let tokens ← Lexeme.read? (cs.length + 1) [] cs
    let (body, cursor) ← Reader.script (16 * tokens.length + 16) [] { rest := tokens }
    if Reader.namesAgree body (cursor.declared ++ Reader.functionNames body) then
      return { body, declared := cursor.declared.reverse.eraseDups }
    else none
  match script? with
  | none => .failed "SyntaxError: malformed script"
  | some script =>
    match script.run limits cs.length with
    | .ok u => opened u.shown
    | .error u => .failed u.shown

theorem evaluateText_eq (limits : ScriptLimits) (text : String) :
    evaluateText limits text = evaluateCharacters limits text.toList := by
  unfold evaluateText evaluateCharacters Program.ofText? Lexeme.ofText?
  rw [String.length_toList]
  rfl

end Script

/-- A transform with a blank in front of its source. -/
def paddedTruth : Node :=
  ⟨"t", .transform, ⟨"Transform", "", false, .transform { source := " true" }⟩⟩

/-- A frame in which a source may be four bytes long. -/
def tightFrame : Frame Rehearsal :=
  { Graph.trial { nodes := [paddedTruth] } with engine := .limited { sourceBytes := 4 } }

theorem paddedTruth_loose : tightFrame.graph.HoldsLoose paddedTruth { source := " true" } :=
  ⟨by decide, rfl, rfl, rfl, by decide +kernel⟩

theorem paddedTruth_regimes : tightFrame.engine = .limited { sourceBytes := 4 } ∧
    tightFrame.graph.HoldsLoose paddedTruth { source := " true" } ∧
    Regimes tightFrame { sourceBytes := 4 } paddedTruth { source := " true" }
      { state := {}, world := {} } :=
  ⟨rfl, paddedTruth_loose, transform_regimes rfl paddedTruth_loose _⟩

set_option maxRecDepth 20000 in
/-- Without the blank the source fits, and gives what it says. -/
theorem limited_true : (ScriptEngine.limited { sourceBytes := 4 }).run .expression "true"
    (.ofState {} .null) = { value := .bool true } := by
  have hblank : Text.isAllBlank "true" = false := by decide
  have hfits : "true".utf8ByteSize ≤ ({ sourceBytes := 4 } : ScriptLimits).sourceBytes := by decide
  -- the text is spelled out part by part, since a long literal is slow to take apart
  obtain ⟨cs, htext, hvalue⟩ : ∃ cs,
      (Script.wrapped .expression "true" (.ofState {} .null) []).toList = cs ∧
      Script.evaluateCharacters { sourceBytes := 4 } cs = { value := .bool true } := by
    unfold Script.wrapped Script.logging Script.bindingText Script.binding Script.bound
      Script.quoted Script.asCallText
    simp only [String.toList_append, List.append_assoc]
    repeat rw [show String.toList _ = _ from String.toList_ofList]
    exact ⟨_, rfl, by decide +kernel⟩
  rw [ScriptEngine.limited_of_fits _ _ _ hblank hfits, Script.evaluateText_eq, htext, hvalue]

/-- On the chain the padded source gives a value, on demand it gives none. -/
theorem paddedTruth_disagrees :
    tightFrame.graph.HoldsLoose paddedTruth { source := " true" } ∧
    payloadAfter tightFrame paddedTruth { state := {}, world := {} } = .ok (.bool true) ∧
    tightFrame.firstRead? paddedTruth {} = none ∧
    tightFrame.firstRead? paddedTruth {} ≠
      valueOf? (payloadAfter tightFrame paddedTruth { state := {}, world := {} }) := by
  have hchain : payloadAfter tightFrame paddedTruth { state := {}, world := {} } =
      .ok (.bool true) := by
    have hrequired : required " true" "transform source" = .ok "true" := by decide
    have hvalue : (tightFrame.outcome { source := " true" } {} "true").result =
        .ok (.bool true) := congrArg ScriptOutcome.result limited_true
    exact (payloadAfter_of_required tightFrame paddedTruth_loose.body paddedTruth_loose.runs
      hrequired _).trans hvalue
  have hdemand : tightFrame.firstRead? paddedTruth {} = none := by
    rw [firstRead?_transform paddedTruth_loose]
    have hlong : ({ sourceBytes := 4 } : ScriptLimits).sourceBytes < " true".utf8ByteSize := by
      decide
    exact congrArg Json.nonNull? (ScriptEngine.limited_of_long _ .expression _ hlong)
  refine ⟨paddedTruth_loose, hchain, hdemand, ?_⟩
  rw [hchain, hdemand]
  decide

end Workgraph
