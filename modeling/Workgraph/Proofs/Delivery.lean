import Mathlib.Data.List.TakeWhile
import Workgraph.Proofs.Independence
import Workgraph.Proofs.Rounds

/-!
# Replies in pieces and replies as a whole

A model may send its reply in pieces: text, tool calls and reports of usage, in any order. This file
compares a run with one in which such a reply comes as a whole, put together from the pieces
(`CompletionResponse.ofChunks`).

* `Frame.Restates` says what it means that two runs are answered alike but for the form of the
  replies. While neither of them is cancelled, it makes no difference to the hosts what they are
  told of a reply and how often a piece is waited for.
* Taking a reply is hidden (`Deed.takes`): what else the hosts are asked is the substance of a run,
  and it is the same. So is what they are told of a reply, when it is read as one text
  (`Host.Spoken`).
* While a reply is taken the records of two runs may differ in substance for a while, so the
  comparison steps over it as a whole (`asksAlikeIfAny_restates`).
* `SameSubstance` says what two runs have in common; `Frame.Restates.sameSubstance` is the main
  result.
-/

namespace Workgraph

open Exec

variable {σ τ : Type}

/-! ## 1. What is told of a reply -/

/-- What is done to take a reply: telling of its text, and waiting for its pieces. -/
def Deed.takes : Deed → Bool
  | .told e => e.happening.delta?.isSome
  | .waited | .lapsed => true
  | _ => false

/-- The text of the assistant that the host is told of. -/
def Deed.delta? : Deed → Option String
  | .told e => e.happening.delta?
  | _ => none

/-- The text that the host is told by some contacts. -/
def toldText (ks : List (Contact σ)) : String := String.join (ks.filterMap (·.deed.delta?))

/-- The host was asked for a reply and gave one that amounts to a response, without cancelling the
run. -/
def Host.Gave (h : Host σ) (k : Contact σ) (response : CompletionResponse) : Prop :=
  ∃ service q reply, h.completion = some service ∧ k.deed = .asked q ∧
    (service q k.before).1 = .answered (.ok reply) ∧ reply.Amounts response ∧
    h.cancelled k.after = false

/-- **What is told of a reply is its content**, each time before anything else is asked. -/
def Host.Spoken (h : Host σ) (ks : List (Contact σ)) : Prop :=
  ∀ before k after, ks = before ++ k :: after → ∀ response, h.Gave k response →
    toldText (after.takeWhile (·.deed.takes)) = response.content

/-- A record with some contacts more, which took a reply. -/
def Record.Takes (r r' : Record σ) (text : String) : Prop :=
  ∃ ks, r'.contacts = r.contacts ++ ks ∧ (∀ k ∈ ks, k.deed.takes = true) ∧ toldText ks = text

theorem Record.Takes.refl (r : Record σ) : r.Takes r "" :=
  ⟨[], (List.append_nil _).symm, fun _ hk => absurd hk List.not_mem_nil, rfl⟩

theorem toldText_concat (ks : List (Contact σ)) (k : Contact σ) :
    toldText (ks ++ [k]) = toldText ks ++ k.deed.delta?.getD "" := by
  unfold toldText
  rw [List.filterMap_append, String.join_append, List.filterMap_cons]
  cases k.deed.delta? with
  | none => rfl
  | some text => exact congrArg (_ ++ ·) (String.join_cons.trans String.append_empty)

theorem Record.Takes.note {r r' : Record σ} {text : String} (h : r.Takes r' text) {deed : Deed}
    (htakes : deed.takes = true) (w : σ) :
    r.Takes (r'.note deed w) (text ++ deed.delta?.getD "") := by
  obtain ⟨ks, hks, hall, rfl⟩ := h
  refine ⟨ks ++ [⟨deed, r'.world, w⟩], ?_, fun k hk => ?_, toldText_concat _ _⟩
  · rw [← List.append_assoc, ← hks]
    rfl
  · rcases List.mem_append.mp hk with hk | hk
    · exact hall k hk
    · rw [List.mem_singleton.mp hk]
      exact htakes

theorem Record.Takes.quiet {r r' : Record σ} {text : String} (h : r.Takes r' text) {deed : Deed}
    (htakes : deed.takes = true) (hdelta : deed.delta? = none) (w : σ) :
    r.Takes (r'.note deed w) text := by
  have hnote := h.note htakes w
  rw [hdelta, Option.getD_none, String.append_empty] at hnote
  exact hnote

/-- Nothing is given while a reply is taken. -/
theorem Host.Gave.takes {h : Host σ} {k : Contact σ} {response : CompletionResponse}
    (hgave : h.Gave k response) : k.deed.takes = false := by
  obtain ⟨_, _, _, -, hdeed, -⟩ := hgave
  rw [hdeed]
  rfl

/-- The reply that was given. -/
theorem Host.Gave.reply {h : Host σ} {service : CompletionRequest → σ → Arrival Reply × σ}
    (hservice : h.completion = some service) {q : CompletionRequest} {w w' : σ}
    {response : CompletionResponse} (hgave : h.Gave ⟨.asked q, w, w'⟩ response) :
    ∃ reply, (service q w).1.result = .ok reply ∧ reply.Amounts response ∧
      h.cancelled w' = false := by
  obtain ⟨_, _, reply, hsome, hdeed, hreply, hamounts, hrunning⟩ := hgave
  rw [hservice] at hsome
  cases hsome
  cases hdeed
  exact ⟨reply, by rw [hreply]; rfl, hamounts, hrunning⟩

/-- A contact, and what was done to take the reply to it, may be added. -/
theorem Host.Spoken.append {h : Host σ} {ks more : List (Contact σ)} {k : Contact σ}
    (hspoken : h.Spoken ks) (hk : k.deed.takes = false) (hmore : ∀ k ∈ more, k.deed.takes = true)
    (htold : ∀ response, h.Gave k response → toldText more = response.content) :
    h.Spoken (ks ++ k :: more) := by
  have hhere {after : List (Contact σ)} {k₀ : Contact σ} {response : CompletionResponse}
      (hrest : k :: more = k₀ :: after) (hgave : h.Gave k₀ response) :
      toldText (after.takeWhile (·.deed.takes)) = response.content := by
    cases hrest
    rw [List.takeWhile_eq_self_iff.mpr hmore]
    exact htold response hgave
  intro before k₀ after hparts response hgave
  rcases List.append_eq_append_iff.mp hparts with ⟨mid, -, hrest⟩ | ⟨mid, hks, hrest⟩
  · cases mid with
    | nil => exact hhere hrest hgave
    | cons _ mid =>
      obtain ⟨-, hrest⟩ := List.cons.inj hrest
      have htakes := hmore k₀ (hrest ▸ List.mem_append_right _ List.mem_cons_self)
      rw [hgave.takes] at htakes
      cases htakes
  · cases mid with
    | nil => exact hhere hrest.symm hgave
    | cons _ mid =>
      -- what was told before the contact ends there
      rw [List.cons_append] at hrest
      obtain ⟨rfl, rfl⟩ := List.cons.inj hrest
      have hstop : (mid ++ k :: more).takeWhile (·.deed.takes) = mid.takeWhile (·.deed.takes) := by
        rw [List.takeWhile_append]
        split
        · next hall =>
          rw [List.takeWhile_cons_of_neg (by rw [hk]; exact Bool.false_ne_true), List.append_nil]
          exact ((List.takeWhile_prefix _).eq_of_length hall).symm
        · rfl
      rw [hstop]
      exact hspoken before k₀ mid hks response hgave

/-! ## 2. Taking a reply -/

theorem Reply.Amounts.unique {reply : Reply} {r r' : CompletionResponse} (h : reply.Amounts r)
    (h' : reply.Amounts r') : r' = r := by
  cases h with
  | whole => cases h'; rfl
  | pieces chunks =>
    generalize hitems : chunks.map Except.ok = items at h'
    cases h' with
    | pieces chunks' =>
      rw [List.map_injective_iff.mpr (fun _ _ heq => Except.ok.inj heq) hitems]

/-- A record with some contacts more, which took a reply. When nothing came in the way, what was
told is what the reply amounts to. -/
def Host.Took (h : Host σ) (reply : Reply) (r r' : Record σ) : Prop :=
  ∃ text, r.Takes r' text ∧ ∀ response, reply.Amounts response → h.cancelled r.world = false →
    text = response.content

/-- Worlds of a host in which nothing comes in the way of taking a reply. -/
structure Host.Undisturbed (h : Host σ) (executionId : String) (P : σ → Prop) : Prop where
  heard (nodeId text : String) (w : σ) : P w →
    P (h.deliver ⟨executionId, .assistantDelta nodeId text⟩ w)
  waited (w : σ) : P w → (h.interrupts w).1 = false ∧ P (h.interrupts w).2

namespace Exec

variable {c : Frame σ} {P : σ → Prop} {nodeId : String} {base : Record σ}

section

variable (h : c.host.Undisturbed c.executionId P)

include h

/-- A piece arrives. -/
theorem settle_wait {s : Session (Record σ)} (hP : P s.world.world) :
    settle (ask c.recorded.host.interrupts) s = (.ok false,
      { s with world := s.world.note .waited (c.host.interrupts s.world.world).2 }) := by
  obtain ⟨hnot, -⟩ := h.waited _ hP
  rw [settle_ask, ← hnot]
  rfl

variable (nodeId) in
/-- Pieces that arrive undisturbed add up, and their text is told. -/
theorem takePieces_undisturbed (chunks : List Chunk) : ∀ (r₀ : CompletionResponse) (text : String)
    (s : Session (Record σ)), P s.world.world → base.Takes s.world text →
    ∃ r, settle (takePieces c.recorded nodeId true (chunks.map .ok) r₀) s =
        (.ok (chunks.foldl CompletionResponse.add r₀), { s with world := r }) ∧
      base.Takes r (text ++ (CompletionResponse.ofChunks chunks).content) ∧ P r.world := by
  induction chunks with
  | nil =>
    intro r₀ text s hP htakes
    refine ⟨s.world.note .waited (c.host.interrupts s.world.world).2, ?_, ?_, (h.waited _ hP).2⟩
    · rw [List.map_nil]
      unfold takePieces
      rw [if_pos rfl, settle_bind_of_ok (settle_wait h hP)]
      rfl
    · rw [CompletionResponse.ofChunks, List.filterMap_nil, String.join_nil, String.append_empty]
      exact htakes.quiet rfl rfl _
  | cons chunk chunks ih =>
    intro r₀ text s hP htakes
    have hwaited : base.Takes (s.world.note .waited (c.host.interrupts s.world.world).2) text :=
      htakes.quiet rfl rfl _
    have hP' := (h.waited _ hP).2
    have htake : settle (takePieces c.recorded nodeId true ((chunk :: chunks).map .ok) r₀) s =
        settle (chunk.text?.elim (pure ()) (delta c.recorded nodeId) >>= fun _ =>
          takePieces c.recorded nodeId true (chunks.map .ok) (r₀.add chunk))
          { s with world := s.world.note .waited (c.host.interrupts s.world.world).2 } := by
      rw [List.map_cons]
      conv_lhs => unfold takePieces
      rw [settle_bind_of_ok (settle_wait h hP)]
      cases chunk <;> rfl
    rw [htake]
    cases chunk with
    | text t =>
      let e : RunEvent := ⟨c.executionId, .assistantDelta nodeId t⟩
      have htold : base.Takes ((s.world.note .waited (c.host.interrupts s.world.world).2).note
          (.told e) (c.host.deliver e (c.host.interrupts s.world.world).2)) (text ++ t) :=
        hwaited.note rfl _
      obtain ⟨r, hsettle, hr, hPr⟩ := ih (r₀.add (.text t)) (text ++ t) { s with world := _ }
        (h.heard nodeId t _ hP') htold
      refine ⟨r, hsettle, ?_, hPr⟩
      have hcontent : (CompletionResponse.ofChunks (.text t :: chunks)).content =
        t ++ (CompletionResponse.ofChunks chunks).content := String.join_cons
      rw [hcontent, ← String.append_assoc]
      exact hr
    | toolCall call => exact ih (r₀.add (.toolCall call)) text _ hP' hwaited
    | usage u => exact ih (r₀.add (.usage u)) text _ hP' hwaited

/-- **A reply that is taken undisturbed** gives what it amounts to, and its content is told. -/
theorem takeReply_undisturbed {reply : Reply} {response : CompletionResponse}
    (hreply : reply.Amounts response) (s : Session (Record σ)) (hP : P s.world.world) :
    ∃ r, settle (takeReply c.recorded nodeId reply) s = (.ok response, { s with world := r }) ∧
      s.world.Takes r response.content ∧ P r.world := by
  cases hreply with
  | whole =>
    unfold takeReply
    dsimp only
    by_cases hempty : response.content.isEmpty
    · rw [hempty]
      refine ⟨s.world, rfl, ?_, hP⟩
      rw [String.isEmpty_iff.mp hempty]
      exact .refl _
    · rw [Bool.not_eq_true] at hempty
      rw [hempty]
      let e : RunEvent := ⟨c.executionId, .assistantDelta nodeId response.content⟩
      have htold : s.world.Takes (s.world.note (.told e) (c.host.deliver e s.world.world))
          ("" ++ response.content) := (Record.Takes.refl s.world).note rfl _
      rw [String.empty_append] at htold
      exact ⟨_, rfl, htold, h.heard nodeId _ _ hP⟩
  | pieces chunks =>
    obtain ⟨r, hsettle, hr, hPr⟩ :=
      takePieces_undisturbed nodeId h chunks {} "" s hP (.refl _)
    rw [CompletionResponse.foldl_add_eq] at hsettle
    rw [String.empty_append] at hr
    exact ⟨r, hsettle, hr, hPr⟩

end

end Exec

/-! ## 3. Runs whose replies come in another form -/

/-- A frame without its model. -/
def Frame.unasked (c : Frame σ) : Frame σ :=
  { c with host := { c.host with completion := none } }

/-- Two models answer the same, or one of them sends as a whole what the other sends in pieces. -/
structure Restated (h : Host σ) (R : σ → τ → Prop) (answer : Arrival Reply × σ)
    (answer' : Arrival Reply × τ) : Prop where
  worlds : R answer.2 answer'.2
  forms : answer'.1 = answer.1 ∨ h.cancelled answer.2 = false ∧ ∃ chunks : List Chunk,
    answer.1 = .answered (.ok (.pieces (chunks.map .ok) true)) ∧
    answer'.1 = .answered (.ok (.whole (.ofChunks chunks)))

theorem Restated.cases {h : Host σ} {R : σ → τ → Prop} {answer : Arrival Reply × σ}
    {answer' : Arrival Reply × τ} (hr : Restated h R answer answer') :
    (∃ f, answer.1.result = .error f ∧ answer'.1.result = .error f) ∨
    ∃ reply reply', answer.1.result = .ok reply ∧ answer'.1.result = .ok reply' ∧
      (reply' = reply ∨ h.cancelled answer.2 = false ∧
        ∃ response, reply.Amounts response ∧ reply'.Amounts response) := by
  rcases hr.forms with hsame | ⟨hrunning, chunks, hpieces, hwhole⟩
  · rw [hsame]
    cases answer.1.result with
    | error f => exact Or.inl ⟨f, rfl, rfl⟩
    | ok reply => exact Or.inr ⟨reply, reply, rfl, rfl, Or.inl rfl⟩
  · rw [hpieces, hwhole]
    exact Or.inr ⟨_, _, rfl, rfl, Or.inr ⟨hrunning, _, .pieces chunks, .whole _⟩⟩

/-- **Two runs that are answered alike but for the form of the replies.** As long as they are not
cancelled, it makes no difference to a host what it is told of a reply and how often a piece is
waited for. -/
structure Frame.Restates (c : Frame σ) (c' : Frame τ) (R : σ → τ → Prop) : Prop where
  graph : c'.graph = c.graph
  answers : c.unasked.Answers c'.unasked R
  asked : Option.Rel (fun service service' => ∀ q w w', R w w' → c.host.cancelled w = false →
    Restated c.host R (service q w) (service' q w')) c.host.completion c'.host.completion
  heard (nodeId text : String) (w : σ) (w' : τ) : R w w' → c.host.cancelled w = false →
    R (c.host.deliver (c.event (.assistantDelta nodeId text)) w) w' ∧
    R w (c'.host.deliver (c'.event (.assistantDelta nodeId text)) w')
  waited (w : σ) (w' : τ) : R w w' → c.host.cancelled w = false →
    ((c.host.interrupts w).1 = false ∧ R (c.host.interrupts w).2 w') ∧
    (c'.host.interrupts w').1 = false ∧ R w (c'.host.interrupts w').2

/-- What the host was asked besides taking replies, without the id of the run. -/
def Record.substance (r : Record σ) : List Deed :=
  (r.contacts.map (·.deed.unnamed)).filter fun deed => !deed.takes

/-- Records of two runs that are the same but for the form of the replies. -/
structure Record.Restates (c : Frame σ) (c' : Frame τ) (R : σ → τ → Prop) (r : Record σ)
    (r' : Record τ) : Prop where
  world : R r.world r'.world
  substance : r'.substance = r.substance
  spoken : c.host.Spoken r.contacts
  spoken' : c'.host.Spoken r'.contacts

theorem Deed.takes_unnamed (deed : Deed) : deed.unnamed.takes = deed.takes := by
  cases deed <;> rfl

theorem Record.Takes.substance {r r' : Record σ} {text : String} (h : r.Takes r' text) :
    r'.substance = r.substance := by
  obtain ⟨ks, hks, hall, -⟩ := h
  unfold Record.substance
  rw [hks, List.map_append, List.filter_append, List.append_right_eq_self, List.filter_eq_nil_iff]
  intro deed hdeed
  obtain ⟨k, hk, rfl⟩ := List.mem_map.mp hdeed
  rw [Deed.takes_unnamed, hall k hk]
  exact Bool.false_ne_true

theorem Record.substance_note (r : Record σ) {deed : Deed} (h : deed.takes = false) (w : σ) :
    (r.note deed w).substance = r.substance ++ [deed.unnamed] := by
  unfold substance note
  rw [List.map_append, List.filter_append]
  congr 1
  exact List.filter_cons_of_pos (by rw [Deed.takes_unnamed, h]; rfl)

section

variable {R : σ → τ → Prop} {c : Frame σ} {c' : Frame τ}

/-- Both hosts are asked for something, and take the reply if there is one. -/
theorem Record.Restates.exchange {r : Record σ} {r' : Record τ} (h : Restates c c' R r r')
    {deed deed' : Deed} (hdeed : deed'.unnamed = deed.unnamed) (hdeed_takes : deed.takes = false)
    {w : σ} {w' : τ} {r₁ : Record σ} {r₁' : Record τ} {text text' : String}
    (htakes : (r.note deed w).Takes r₁ text) (htakes' : (r'.note deed' w').Takes r₁' text')
    (hworld : R r₁.world r₁'.world)
    (htold : ∀ response, c.host.Gave ⟨deed, r.world, w⟩ response → text = response.content)
    (htold' : ∀ response, c'.host.Gave ⟨deed', r'.world, w'⟩ response → text' = response.content) :
    Restates c c' R r₁ r₁' := by
  have hdeed_takes' : deed'.takes = false := by
    rw [← Deed.takes_unnamed, hdeed, Deed.takes_unnamed, hdeed_takes]
  refine ⟨hworld, ?_, ?_, ?_⟩
  · rw [htakes.substance, htakes'.substance, substance_note _ hdeed_takes,
      substance_note _ hdeed_takes', h.substance, hdeed]
  · obtain ⟨ks, hks, hall, rfl⟩ := htakes
    rw [hks, note, List.append_assoc]
    exact h.spoken.append hdeed_takes hall htold
  · obtain ⟨ks, hks, hall, rfl⟩ := htakes'
    rw [hks, note, List.append_assoc]
    exact h.spoken'.append hdeed_takes' hall htold'

/-- Both hosts are asked for something that is not a reply. -/
theorem Record.Restates.note {r : Record σ} {r' : Record τ} (h : Restates c c' R r r')
    {deed deed' : Deed} (hdeed : deed'.unnamed = deed.unnamed) (htakes : deed.takes = false)
    (hquiet : deed.request? = none) {w : σ} {w' : τ} (hworld : R w w') :
    Restates c c' R (r.note deed w) (r'.note deed' w') := by
  refine h.exchange hdeed htakes (.refl _) (.refl _) hworld ?_ ?_
  · rintro _ ⟨_, _, _, -, rfl, -⟩
    cases hquiet
  · rintro _ ⟨_, _, _, -, rfl, -⟩
    cases deed <;> cases hdeed
    cases hquiet

theorem AnswerAlike.restated {α : Type} {service : σ → α × σ} {service' : τ → α × τ}
    (h : AnswerAlike R service service') {deed : Deed} (htakes : deed.takes = false)
    (hquiet : deed.request? = none) :
    AnswerAlike (Record.Restates c c' R) (Record.noting deed service)
      (Record.noting deed service') := by
  intro r r' hr
  obtain ⟨hanswer, hworld⟩ := h r.world r'.world hr.world
  exact ⟨hanswer, hr.note rfl htakes hquiet hworld⟩

theorem AnswerAlikeIfAny.restated {ι α : Type} {service? : Option (ι → σ → α × σ)}
    {service?' : Option (ι → τ → α × τ)} (h : AnswerAlikeIfAny R service? service?')
    {deed : ι → Deed} (htakes : ∀ q, (deed q).takes = false)
    (hquiet : ∀ q, (deed q).request? = none) :
    AnswerAlikeIfAny (Record.Restates c c' R)
      (service?.map fun service q => Record.noting (deed q) (service q))
      (service?'.map fun service q => Record.noting (deed q) (service q)) := by
  cases h with
  | none => exact .none
  | some halike => exact .some fun q => (halike q).restated (htakes q) (hquiet q)

variable (h : c.Restates c' R)

include h

namespace Frame.Restates

theorem alike : c.graph.Alike c'.graph := by
  rw [h.graph]
  exact .refl _

theorem cancelled {w : σ} {w' : τ} (hw : R w w') :
    c'.host.cancelled w' = c.host.cancelled w := h.answers.cancelled w w' hw

theorem told {happening : Happening} (hdelta : happening.delta? = none)
    {r : Record σ} {r' : Record τ} (hr : r.Restates c c' R r') :
    Record.Restates c c' R (c.recorded.host.deliver (c.event happening) r)
      (c'.recorded.host.deliver (c'.event happening) r') := by
  have hdeed : (Deed.told (c'.event happening)).unnamed =
      (Deed.told (c.event happening)).unnamed := rfl
  refine hr.note hdeed ?_ rfl (h.answers.told happening _ _ hr.world)
  show happening.delta?.isSome = false
  rw [hdelta]
  rfl

/-- The recorded frames are in accord on all that is not about replies. -/
theorem accord (nodeId : String) :
    c.recorded.Accord c'.recorded nodeId (Session.Matches (Record.Restates c c' R)) where
  graph := h.alike
  engine := h.answers.engine
  settings := h.answers.settings
  state hs := hs.state
  resolver hs := hs.resolver
  remember _ hs := ⟨hs.state, rfl, hs.world⟩
  cancelled hs := h.cancelled hs.world.world
  told _ hdelta hs := hs.withWorld (h.told hdelta hs.world)
  searched := servesIfAny_of_matches (fun _ _ hs => hs.1)
    (h.answers.searched.restated (fun _ => rfl) fun _ => rfl)
  counted := servesIfAny_of_matches (fun _ _ hs => hs)
    (h.answers.counted.restated (fun _ => rfl) fun _ => rfl)
  drew bound := serves_of_matches (fun _ _ hs => hs) ((h.answers.drew bound).restated rfl rfl)

/-- The same reply is taken in both runs, from two records on. -/
theorem accordOnReplies (nodeId : String) (base : Record σ) (base' : Record τ) :
    c.recorded.AccordOnReplies c'.recorded nodeId (Session.Matches fun r r' =>
      R r.world r'.world ∧ (∃ text, base.Takes r text) ∧ ∃ text, base'.Takes r' text) where
  heard text _ _ hs := by
    obtain ⟨hworld, ⟨_, htakes⟩, _, htakes'⟩ := hs.world
    exact hs.withWorld ⟨h.answers.told _ _ _ hworld, ⟨_, htakes.note rfl _⟩, _, htakes'.note rfl _⟩
  waited s s' hs := by
    obtain ⟨hworld, ⟨_, htakes⟩, _, htakes'⟩ := hs.world
    obtain ⟨hanswer, hafter⟩ := h.answers.waited _ _ hworld
    exact ⟨hanswer, hs.withWorld ⟨hafter, ⟨_, htakes.note rfl _⟩, _, htakes'.note rfl _⟩⟩
  lapsed hs := by
    obtain ⟨hworld, ⟨_, htakes⟩, _, htakes'⟩ := hs.world
    exact hs.withWorld ⟨h.answers.lapsed _ _ hworld, ⟨_, htakes.note rfl _⟩, _, htakes'.note rfl _⟩

/-- Nothing comes in the way of the first run, whatever the second has come to. -/
theorem undisturbed (w' : τ) : c.host.Undisturbed c.executionId
    fun w => R w w' ∧ c.host.cancelled w = false where
  heard nodeId text w := by
    rintro ⟨hw, hrunning⟩
    obtain ⟨hheard, -⟩ := h.heard nodeId text w w' hw hrunning
    refine ⟨hheard, ?_⟩
    rw [← hrunning, ← h.cancelled hw]
    exact (h.cancelled hheard).symm
  waited w := by
    rintro ⟨hw, hrunning⟩
    obtain ⟨⟨hnot, hwaited⟩, -⟩ := h.waited w w' hw hrunning
    refine ⟨hnot, hwaited, ?_⟩
    rw [← hrunning, ← h.cancelled hw]
    exact (h.cancelled hwaited).symm

/-- Nor of the second. -/
theorem undisturbed' {w : σ} (hrunning : c.host.cancelled w = false) :
    c'.host.Undisturbed c'.executionId (R w) where
  heard nodeId text w' hw := (h.heard nodeId text w w' hw hrunning).2
  waited w' hw := (h.waited w w' hw hrunning).2

end Frame.Restates

end

/-! ## 4. Asking the model -/

theorem Exec.settle_askModel {c : Frame σ} (x : Exchange σ) (messages : List Message)
    (tools : List ToolDefinition) {s : Session σ} (hrunning : c.host.cancelled s.world = false) :
    settle (askModel c x messages tools) s =
      match (x.complete (x.body.request messages tools) s.world).1.result with
      | .ok reply => settle (takeReply c x.nodeId reply)
          { s with world := (x.complete (x.body.request messages tools) s.world).2 }
      | .error f =>
        (.error f, { s with world := (x.complete (x.body.request messages tools) s.world).2 }) := by
  have hcheck : settle (checkCancelled c) s = (.ok (), s) := by
    rw [settle_checkCancelled, hrunning]
    rfl
  unfold askModel
  rw [settle_bind_of_ok hcheck]
  cases hresult : (x.complete (x.body.request messages tools) s.world).1.result with
  | ok reply => exact settle_bind_of_ok (by rw [settle_await, hresult])
  | error f => exact settle_bind_of_error (by rw [settle_await, hresult])

theorem Exec.settle_askModel_cancelled {c : Frame σ} (x : Exchange σ) (messages : List Message)
    (tools : List ToolDefinition) {s : Session σ} (hcancelled : c.host.cancelled s.world = true) :
    settle (askModel c x messages tools) s = (.error .cancelled, s) := by
  unfold askModel
  exact settle_bind_of_error (by rw [settle_checkCancelled, hcancelled]; rfl)

section

variable {R : σ → τ → Prop} {c : Frame σ} {c' : Frame τ} (h : c.Restates c' R) {nodeId : String}

include h

variable (nodeId) in
/-- **The same reply is taken in both runs**, each in its own form. -/
theorem takeReply_restated {reply reply' : Reply} {s : Session (Record σ)} {s' : Session (Record τ)}
    (hs : s.Matches (fun r r' => R r.world r'.world) s')
    (hforms : reply' = reply ∨ c.host.cancelled s.world.world = false ∧
      ∃ response, reply.Amounts response ∧ reply'.Amounts response) :
    FollowsAt (Session.Matches fun r r' => R r.world r'.world ∧
        c.host.Took reply s.world r ∧ c'.host.Took reply' s'.world r')
      (takeReply c.recorded nodeId reply) (takeReply c'.recorded nodeId reply') s s' := by
  have hcancelled := h.cancelled hs.world
  by_cases hamounts : c.host.cancelled s.world.world = false ∧
      ∃ response, reply.Amounts response ∧ reply'.Amounts response
  · obtain ⟨hrunning, response, hreply, hreply'⟩ := hamounts
    obtain ⟨r, hsettle, htakes, hworld, hrunning'⟩ :=
      takeReply_undisturbed (h.undisturbed s'.world.world) hreply s ⟨hs.world, hrunning⟩
    obtain ⟨r', hsettle', htakes', hworld'⟩ :=
      takeReply_undisturbed (h.undisturbed' hrunning') hreply' s' hworld
    unfold FollowsAt
    rw [hsettle, hsettle']
    refine ⟨rfl, hs.state, hs.resolver, hworld', ⟨_, htakes, fun other hother _ => ?_⟩, _, htakes',
      fun other hother _ => ?_⟩
    · rw [hreply.unique hother]
    · rw [hreply'.unique hother]
  · obtain rfl := hforms.resolve_right hamounts
    obtain ⟨hresult, hafter⟩ := takeReply_follows
      (h.accordOnReplies nodeId s.world s'.world) reply' s s'
      ⟨hs.state, hs.resolver, hs.world, ⟨_, .refl _⟩, _, .refl _⟩
    obtain ⟨hworld, ⟨text, htakes⟩, text', htakes'⟩ := hafter.world
    refine ⟨hresult, hafter.state, hafter.resolver, hworld, ⟨text, htakes, ?_⟩, text', htakes', ?_⟩
    · intro response hresponse hrunning
      exact absurd ⟨hrunning, response, hresponse, hresponse⟩ hamounts
    · intro response hresponse hrunning
      rw [hcancelled] at hrunning
      exact absurd ⟨hrunning, response, hresponse, hresponse⟩ hamounts

/-- Asking the two models goes side by side. -/
theorem asksAlike_restates {service : CompletionRequest → σ → Arrival Reply × σ}
    {service' : CompletionRequest → τ → Arrival Reply × τ}
    (hservice : c.host.completion = some service) (hservice' : c'.host.completion = some service')
    (hasked : ∀ q w w', R w w' → c.host.cancelled w = false →
      Restated c.host R (service q w) (service' q w')) :
    AsksAlike c.recorded c'.recorded nodeId (Session.Matches (Record.Restates c c' R))
      (fun q => Record.noting (.asked q) (service q))
      (fun q => Record.noting (.asked q) (service' q)) := by
  intro b tools messages definitions s s' hs
  have hcancelled := h.cancelled hs.world.world
  unfold FollowsAt
  cases hrunning : c.host.cancelled s.world.world with
  | true =>
    rw [settle_askModel_cancelled (c := c.recorded) _ _ _ hrunning,
      settle_askModel_cancelled (c := c'.recorded) _ _ _ (hcancelled.trans hrunning)]
    exact ⟨rfl, hs⟩
  | false =>
    rw [settle_askModel (c := c.recorded) _ _ _ hrunning,
      settle_askModel (c := c'.recorded) _ _ _ (hcancelled.trans hrunning)]
    have hrestated := hasked (b.request messages definitions) _ _ hs.world.world hrunning
    dsimp only [Record.noting]
    rcases hrestated.cases with ⟨f, hf, hf'⟩ | ⟨reply, reply', hreply, hreply', hforms⟩
    · rw [hf, hf']
      refine ⟨rfl, hs.withWorld (hs.world.exchange rfl rfl (.refl _) (.refl _)
        hrestated.worlds (fun response hgave => ?_) fun response hgave => ?_)⟩
      · obtain ⟨other, hother, -⟩ := hgave.reply hservice
        rw [hf] at hother
        cases hother
      · obtain ⟨other, hother, -⟩ := hgave.reply hservice'
        rw [hf'] at hother
        cases hother
    · rw [hreply, hreply']
      have hworlds : Session.Matches (fun r r' => R r.world r'.world)
          { s with world := s.world.note (.asked (b.request messages definitions)) _ }
          { s' with world := s'.world.note (.asked (b.request messages definitions)) _ } :=
        ⟨hs.state, hs.resolver, hrestated.worlds⟩
      obtain ⟨hresult, hafter⟩ := takeReply_restated h nodeId hworlds hforms
      obtain ⟨hworld, ⟨text, htakes, htold⟩, text', htakes', htold'⟩ := hafter.world
      refine ⟨hresult, hafter.state, hafter.resolver, hs.world.exchange rfl rfl htakes htakes'
        hworld (fun response hgave => ?_) fun response hgave => ?_⟩
      · obtain ⟨other, hother, hamounts, hrunning⟩ := hgave.reply hservice
        rw [hreply] at hother
        cases hother
        exact htold response hamounts hrunning
      · obtain ⟨other, hother, hamounts, hrunning⟩ := hgave.reply hservice'
        rw [hreply'] at hother
        cases hother
        exact htold' response hamounts hrunning

theorem Frame.Restates.asksAlikeIfAny :
    AsksAlikeIfAny c.recorded c'.recorded nodeId (Session.Matches (Record.Restates c c' R)) := by
  unfold AsksAlikeIfAny
  rw [Frame.recorded_completion, Frame.recorded_completion]
  rcases rel_cases h.asked with ⟨hnone, hnone'⟩ | ⟨service, service', hsome, hsome', hasked⟩
  · rw [hnone, hnone']
    exact .none
  · rw [hsome, hsome']
    exact .some (asksAlike_restates h hsome hsome' hasked)

/-! ## 5. Runs -/

/-- The recorded runs keep abreast. -/
theorem Frame.Restates.abreast : c.recorded.Abreast c'.recorded (Record.Restates c c' R) where
  graph := h.alike
  settings := h.answers.settings
  cancelled _ _ hr := h.cancelled hr.world
  told _ _ _ hdelta hr := h.told hdelta hr
  executes n := execute_follows (h.accord n.id) h.asksAlikeIfAny (permits_matches _)

end

/-- What a run asks of its host besides taking replies, without the id of the run. -/
def Frame.substance (c : Frame σ) (state : RunState) (world : σ) : Except Fault (List Deed) :=
  (runGraph c.recorded state { world }).map (·.2.substance)

/-- **Two runs are the same but for the form of the replies.** When one of them cannot begin,
neither can the other. -/
structure SameSubstance (c : Frame σ) (c' : Frame τ) (R : σ → τ → Prop) (state : RunState) (w : σ)
    (w' : τ) : Prop where
  /-- Outcome, nodes executed and state are the same. -/
  result : (runGraph c' state w').map (·.1) =
    (runGraph c state w).map fun p => { p.1 with executionId := c'.executionId }
  /-- So are all requests, searches, records of usage and draws, and all events but for those that
  tell of text of the assistant. -/
  substance : c'.substance state w' = c.substance state w
  worlds (p : RunResult × σ) (p' : RunResult × τ) :
    runGraph c state w = .ok p → runGraph c' state w' = .ok p' → R p.2 p'.2
  /-- In both runs, what is told of a reply is the content of the response. -/
  spoken (p : RunResult × Record σ) : runGraph c.recorded state { world := w } = .ok p →
    c.host.Spoken p.2.contacts
  spoken' (p : RunResult × Record τ) : runGraph c'.recorded state { world := w' } = .ok p →
    c'.host.Spoken p.2.contacts

theorem runGraph_of_noStart {c : Frame σ} (h : c.graph.startNode? = none) (state : RunState)
    (world : σ) : runGraph c state world = .error noStartNode := by
  unfold runGraph
  rw [h]

theorem Host.Spoken.nil (h : Host σ) : h.Spoken [] :=
  fun _ _ _ hparts =>
    absurd hparts.symm (List.append_ne_nil_of_right_ne_nil _ (List.cons_ne_nil _ _))

/-- **Replies in pieces and replies as a whole can be exchanged**: runs that are answered alike but
for the form of the replies are the same in substance. -/
theorem Frame.Restates.sameSubstance {R : σ → τ → Prop} {c : Frame σ} {c' : Frame τ}
    (h : c.Restates c' R) (state : RunState) {w : σ} {w' : τ} (hw : R w w') :
    SameSubstance c c' R state w w' := by
  have hrecord : Record.Restates c c' R { world := w } { world := w' } :=
    ⟨hw, rfl, .nil _, .nil _⟩
  cases hstart : c.graph.startNode? with
  | none =>
    have hstart' : c'.graph.startNode? = none := by rw [h.graph, hstart]
    have hfails := runGraph_of_noStart hstart state w
    have hfails' := runGraph_of_noStart hstart' state w'
    have hrecorded := runGraph_of_noStart (c := c.recorded) hstart state { world := w }
    have hrecorded' := runGraph_of_noStart (c := c'.recorded) hstart' state { world := w' }
    refine ⟨?_, ?_, fun p _ hp => ?_, fun p hp => ?_, fun p hp => ?_⟩
    · rw [hfails, hfails']
      rfl
    · unfold Frame.substance
      rw [hrecorded, hrecorded']
      rfl
    · rw [hfails] at hp
      cases hp
    · rw [hrecorded] at hp
      cases hp
    · rw [hrecorded'] at hp
      cases hp
  | some start =>
    have hstart' : c'.graph.startNode? = some start := by rw [h.graph, hstart]
    obtain ⟨r, record, stays, hrun⟩ := exists_recordedRun hstart state w
    obtain ⟨r', record', stays', hrun'⟩ := exists_recordedRun hstart' state w'
    rcases runGraph_matches h.abreast state hrecord with ⟨hfails, -⟩ | ⟨_, _, _, hok, hok', hend⟩
    · rw [hrun.recorded] at hfails
      cases hfails
    · rw [hrun.recorded] at hok
      rw [hrun'.recorded] at hok'
      cases hok
      cases hok'
      refine ⟨?_, ?_, fun p p' hp hp' => ?_, fun p hp => ?_, fun p hp => ?_⟩
      · rw [hrun.bare, hrun'.bare]
        rfl
      · unfold Frame.substance
        rw [hrun.recorded, hrun'.recorded]
        exact congrArg Except.ok hend.substance
      · rw [hrun.bare] at hp
        rw [hrun'.bare] at hp'
        cases hp
        cases hp'
        exact hend.world
      · rw [hrun.recorded] at hp
        cases hp
        exact hend.spoken
      · rw [hrun'.recorded] at hp
        cases hp
        exact hend.spoken'

/-! ## 6. Rehearsals -/

/-- A cue of the model, and the same cue or one with the pieces put together. -/
inductive ModelCue.Restated : Bool × ModelCue → Bool × ModelCue → Prop where
  | same (cue : Bool × ModelCue) : Restated cue cue
  | joined (chunks : List Chunk) :
      Restated (false, .pieces (chunks.map .ok)) (false, .whole (.ofChunks chunks))

namespace Rehearsal

/-- Rehearsals that differ by the events and by the form of the replies only, and in which no event
cancels a run. -/
def SameButForms (r r' : Rehearsal) : Prop :=
  r.cancelOn = none ∧ ∃ model events, r' = { r with model, events } ∧
    List.Forall₂ ModelCue.Restated r.model model

/-- A service that neither looks at the cues of the model and the events nor changes them. -/
theorem answerAlike_of_blind {α : Type} {service : Rehearsal → α × Rehearsal}
    (hblind : ∀ r model events, service { r with model, events } =
      ((service r).1, { (service r).2 with model, events }))
    (hcancelOn : ∀ r, (service r).2.cancelOn = r.cancelOn)
    (hmodel : ∀ r, (service r).2.model = r.model) : AnswerAlike SameButForms service service := by
  rintro r _ ⟨hon, model, events, rfl, hcues⟩
  rw [hblind]
  refine ⟨rfl, (hcancelOn r).trans hon, model, events, rfl, ?_⟩
  rw [hmodel]
  exact hcues

theorem retrieve_blind (q : Search) : AnswerAlike SameButForms (retrieve q) (retrieve q) := by
  refine answerAlike_of_blind (fun r model events => ?_) (fun r => ?_) fun r => ?_
  all_goals
    unfold retrieve
    dsimp only
    split
    · rfl
    · split <;> rfl

theorem deliver_eq {r : Rehearsal} (h : r.cancelOn = none) (e : RunEvent) :
    r.deliver e = { r with events := e :: r.events } := by
  simp only [deliver, h, Option.any_none, Bool.or_false]

/-- An event may be delivered to one host only. -/
theorem SameButForms.deliver {r r' : Rehearsal} (h : SameButForms r r') (e : RunEvent) :
    SameButForms (r.deliver e) r' ∧ SameButForms r (r'.deliver e) := by
  obtain ⟨hon, model, events, rfl, hcues⟩ := h
  refine ⟨?_, hon, model, e :: events, deliver_eq (r := { r with model, events }) hon e, hcues⟩
  rw [deliver_eq hon]
  exact ⟨hon, model, events, rfl, hcues⟩

/-- The model plays the next cue, or the same cue in the other form. -/
theorem complete_restated (h : Host Rehearsal) (hcancelled : h.cancelled = Rehearsal.cancelled)
    (q : CompletionRequest) {r r' : Rehearsal} (hr : SameButForms r r')
    (hrunning : r.cancelled = false) :
    Restated h SameButForms (complete q r) (complete q r') := by
  obtain ⟨hon, model, events, rfl, hcues⟩ := hr
  obtain ⟨running, cancelOn, cues, store, usageFault, _, requests, searches, records⟩ := r
  dsimp only at hon hcues hrunning
  subst hrunning
  cases hcues with
  | nil => exact ⟨⟨hon, [], events, rfl, .nil⟩, Or.inl rfl⟩
  | @cons cue _ _ _ hcue hrest =>
    cases hcue with
    | same =>
      obtain ⟨cancels, cue⟩ := cue
      cases cue <;> exact ⟨⟨hon, _, events, rfl, hrest⟩, Or.inl rfl⟩
    | joined chunks =>
      refine ⟨⟨hon, _, events, rfl, hrest⟩, Or.inr ⟨?_, chunks, rfl, rfl⟩⟩
      rw [hcancelled]
      rfl

variable {c c' : Frame Rehearsal} (hengine : c'.engine = c.engine)
  (hsettings : c'.settings = c.settings) {hasModel hasStore hasUsage : Bool}
  (hhost : c.host = host hasModel hasStore hasUsage)
  (hhost' : c'.host = host hasModel hasStore hasUsage)

include hengine hsettings hhost hhost'

theorem unasked_answers : c.unasked.Answers c'.unasked SameButForms where
  engine := hengine
  settings := hsettings
  cancelled := by
    rintro r _ ⟨-, model, events, rfl, -⟩
    unfold Frame.unasked
    rw [hhost, hhost']
    rfl
  told happening r r' hr := by
    unfold Frame.unasked
    rw [hhost, hhost']
    exact ((hr.deliver (c.event happening)).1.deliver (c'.event happening)).2
  asked := .none
  waited := by
    unfold Frame.unasked
    rw [hhost, hhost']
    exact answerAlike_of_blind (fun _ _ _ => rfl) (fun _ => rfl) fun _ => rfl
  lapsed := by
    rintro r _ ⟨hon, model, events, rfl, hcues⟩
    unfold Frame.unasked
    rw [hhost, hhost']
    exact ⟨hon, model, events, rfl, hcues⟩
  searched := by
    unfold Frame.unasked
    rw [hhost, hhost']
    cases hasStore with
    | false => exact .none
    | true => exact .some retrieve_blind
  counted := by
    unfold Frame.unasked
    rw [hhost, hhost']
    cases hasUsage with
    | false => exact .none
    | true =>
      exact .some fun _ => answerAlike_of_blind (fun _ _ _ => rfl) (fun _ => rfl) fun _ => rfl
  drew bound := by
    unfold Frame.unasked
    rw [hhost, hhost']
    exact answerAlike_of_blind (fun _ _ _ => rfl) (fun _ => rfl) fun _ => rfl

/-- **Rehearsals whose cues differ by the form of the replies are answered alike** but for that. -/
theorem restates (hgraph : c'.graph = c.graph) : c.Restates c' SameButForms where
  graph := hgraph
  answers := unasked_answers hengine hsettings hhost hhost'
  asked := by
    rw [hhost, hhost']
    cases hasModel with
    | false => exact .none
    | true => exact .some fun q _ _ hr hrunning => complete_restated _ rfl q hr hrunning
  heard nodeId text r r' hr _ := by
    rw [hhost, hhost']
    exact ⟨(hr.deliver _).1, (hr.deliver _).2⟩
  waited r r' hr hrunning := by
    obtain ⟨hon, model, events, rfl, hcues⟩ := hr
    rw [hhost] at hrunning
    rw [hhost, hhost']
    exact ⟨⟨hrunning, hon, model, events, rfl, hcues⟩, hrunning, hon, model, events, rfl, hcues⟩

end Rehearsal

/-- A call of a tool that is not on offer. -/
def lookup : ToolCall := { id := "1", name := "lookup", arguments := .null }

/-- Usage before the text, a tool call between two texts, an empty text, and usage once more; then
an answer in two pieces. -/
def streamed : Rehearsal :=
  { model := [
      (false, .pieces ([.usage { totalTokens := 1 }, .text "Let me ", .toolCall lookup, .text "",
        .text "see", .usage { totalTokens := 9 }].map .ok)),
      (false, .pieces ([.text "Hel", .text "lo"].map .ok))] }

/-- The same replies as a whole. -/
def joined : Rehearsal :=
  { model := [
      (false, .whole
        { content := "Let me see", toolCalls := [lookup], usage := some { totalTokens := 9 } }),
      (false, .whole { content := "Hello" })] }

theorem assistant_sameSubstance :
    assistant.rehearsal.Restates assistant.rehearsal Rehearsal.SameButForms ∧
    Rehearsal.SameButForms streamed joined ∧
    SameSubstance assistant.rehearsal assistant.rehearsal Rehearsal.SameButForms {}
      streamed joined ∧
    ((runGraph assistant.rehearsal {} streamed).map fun p =>
        (p.1.visited, p.1.state.payload, p.2.requests.length)).toOption =
      some (["start", "ask", "end"], .string "Hello", 2) := by
  have hrestates : assistant.rehearsal.Restates assistant.rehearsal Rehearsal.SameButForms :=
    Rehearsal.restates rfl rfl rfl rfl rfl
  have hsame : Rehearsal.SameButForms streamed joined :=
    ⟨rfl, _, _, rfl, .cons (.joined _) (.cons (.joined _) .nil)⟩
  exact ⟨hrestates, hsame, hrestates.sameSubstance {} hsame, by decide +kernel⟩

end Workgraph
