import Mathlib.Data.List.Chain
import Workgraph.Proofs.Course
import Workgraph.Proofs.Effects
import Workgraph.Proofs.Faults
import Workgraph.Proofs.SoundRun

/-!
# The rounds of asking a model

A completion node asks the model, answers the tool calls of the reply, and asks again, until a reply
has no calls or the rounds are used up. This file reads the rounds off the record of what the host
was asked, whatever the model replies and the tools do.

* `CompletionResponse.ofChunks` is the response that pieces make up, `Reply.Amounts` the one that a
  reply amounts to when all of it arrived.
* `Rounds` has one rule for each way in which a round can end. `rounds_exchange` says that it
  describes `Exec.rounds`.
* `Exchange.Continues` says how one request follows from the one before and the reply to it: one
  message of the assistant with what it replied (`Message.Carries`), then one answer for each of its
  calls.
* `Consults` is the account of a completion node; `execute_consults` says that it holds wherever
  such a node is executed.
-/

namespace Workgraph

open Exec Tools

variable {σ : Type}

/-! ## 1. Pieces put together -/

namespace Chunk

def text? : Chunk → Option String
  | .text t => some t
  | _ => none

def toolCall? : Chunk → Option ToolCall
  | .toolCall call => some call
  | _ => none

def usage? : Chunk → Option Usage
  | .usage u => some u
  | _ => none

end Chunk

/-- The response that pieces make up: all text and all tool calls in order, and the last report of
usage. -/
def CompletionResponse.ofChunks (chunks : List Chunk) : CompletionResponse where
  content := String.join (chunks.filterMap Chunk.text?)
  toolCalls := chunks.filterMap Chunk.toolCall?
  usage := (chunks.filterMap Chunk.usage?).getLast?

/-- Pieces added to what arrived before them. -/
theorem CompletionResponse.foldl_add (chunks : List Chunk) : ∀ r : CompletionResponse,
    chunks.foldl add r =
      { content := r.content ++ (ofChunks chunks).content
        toolCalls := r.toolCalls ++ (ofChunks chunks).toolCalls
        usage := (ofChunks chunks).usage.or r.usage } := by
  induction chunks with
  | nil =>
    intro r
    show r = { content := r.content ++ "", toolCalls := r.toolCalls ++ [], usage := r.usage }
    rw [String.append_empty, List.append_nil]
  | cons chunk chunks ih =>
    intro r
    rw [List.foldl_cons, ih]
    cases chunk with
    | text t =>
      have hcontent : (ofChunks (.text t :: chunks)).content = t ++ (ofChunks chunks).content :=
        String.join_cons
      rw [hcontent, ← String.append_assoc]
      rfl
    | toolCall call =>
      have hcalls : (ofChunks (.toolCall call :: chunks)).toolCalls =
        call :: (ofChunks chunks).toolCalls := rfl
      rw [hcalls, List.append_cons]
      rfl
    | usage u =>
      have husage : (ofChunks (.usage u :: chunks)).usage =
          some ((ofChunks chunks).usage.getD u) := List.getLast?_cons
      rw [husage]
      cases (ofChunks chunks).usage <;> rfl

/-- Pieces that arrive one by one make up the same response as all at once. -/
theorem CompletionResponse.foldl_add_eq (chunks : List Chunk) :
    chunks.foldl add {} = ofChunks chunks := by
  rw [foldl_add, String.empty_append, List.nil_append, Option.or_none]

/-! ## 2. Replies and answers -/

/-- The response that a reply amounts to. It may arrive in pieces, of which none may fail. -/
inductive Reply.Amounts : Reply → CompletionResponse → Prop where
  | whole (r : CompletionResponse) : Amounts (.whole r) r
  | pieces (chunks : List Chunk) :
      Amounts (.pieces (chunks.map .ok) true) (.ofChunks chunks)

/-- **What carries a response back to the model**: one message of the assistant with its content and
its tool calls. -/
structure Message.Carries (m : Message) (r : CompletionResponse) : Prop where
  role : m.role = .assistant
  content : m.content = r.content
  toolCalls : m.toolCalls = r.toolCalls
  /-- It answers no call. -/
  toolCallId : m.toolCallId = none

theorem CompletionResponse.message_carries (r : CompletionResponse) : r.message.Carries r :=
  ⟨rfl, rfl, rfl, rfl⟩

/-- What answers a tool call: the result of the tool, or a refusal when there is no such tool. -/
structure ToolCall.AnsweredBy (tools : ToolSet) (call : ToolCall) (m : Message) : Prop where
  role : m.role = .tool
  id : m.toolCallId = some call.id
  unknown : tools.find? call.name = none →
    m = call.answer (refusal ("unknown tool '" ++ call.name ++ "'"))

namespace Exec

variable {c : Frame σ}

/-- Pieces that all arrive add up to a response. -/
theorem takePieces_gives {nodeId : String} {closed : Bool} : ∀ {items : List (Except Fault Chunk)}
    {r₀ r : CompletionResponse}, CanGive (takePieces c nodeId closed items r₀) r →
    closed = true ∧ ∃ chunks : List Chunk,
      items = chunks.map .ok ∧ r = chunks.foldl CompletionResponse.add r₀ := by
  intro items
  induction items with
  | nil =>
    intro r₀ r h
    unfold takePieces at h
    split at h
    · next hclosed =>
      obtain ⟨_, -, h⟩ := h.of_bind
      split at h
      · exact h.of_throw.elim
      · exact ⟨hclosed, [], rfl, h.of_pure⟩
    · obtain ⟨_, -, h⟩ := h.of_bind
      exact h.of_throw.elim
  | cons item items ih =>
    intro r₀ r h
    unfold takePieces at h
    obtain ⟨_, -, h⟩ := h.of_bind
    split at h
    · exact h.of_throw.elim
    · obtain ⟨chunk, hchunk, h⟩ := h.of_bind
      have hitem : item = .ok chunk := by
        cases item with
        | ok a => rw [hchunk.of_pure]
        | error f => exact hchunk.of_throw.elim
      have hrest : CanGive (takePieces c nodeId closed items (r₀.add chunk)) r := by
        dsimp only at h
        split at h
        · obtain ⟨_, -, h⟩ := h.of_bind
          exact h
        · exact h
      obtain ⟨hclosed, chunks, rfl, rfl⟩ := ih hrest
      exact ⟨hclosed, chunk :: chunks, congrArg (· :: _) hitem, rfl⟩

/-- What is taken of a reply is what it amounts to. -/
theorem takeReply_gives {nodeId : String} {reply : Reply} {r : CompletionResponse}
    (h : CanGive (takeReply c nodeId reply) r) : reply.Amounts r := by
  cases reply with
  | whole r₀ =>
    unfold takeReply at h
    have hr : r = r₀ := by
      dsimp only at h
      split at h
      · obtain ⟨_, -, h⟩ := h.of_bind
        exact h.of_pure
      · exact h.of_pure
    rw [hr]
    exact .whole r₀
  | pieces items closed =>
    obtain ⟨rfl, chunks, rfl, rfl⟩ := takePieces_gives h
    rw [CompletionResponse.foldl_add_eq]
    exact .pieces chunks

theorem answerCall_gives {nodeId : String} {tools : ToolSet} {call : ToolCall} {m : Message}
    (h : CanGive (answerCall c nodeId tools call) m) : call.AnsweredBy tools m := by
  obtain ⟨_, -, h⟩ := h.of_bind
  obtain ⟨_, -, h⟩ := h.of_bind
  split at h
  · next b hb =>
    obtain ⟨result, -, h⟩ := h.of_bind
    rw [h.of_pure]
    exact ⟨rfl, rfl, fun hnone => by rw [hnone] at hb; cases hb⟩
  · rw [h.of_pure]
    exact ⟨rfl, rfl, fun _ => rfl⟩

/-- Every call is answered once, in order. -/
theorem answerCalls_gives {nodeId : String} {tools : ToolSet} : ∀ {calls : List ToolCall}
    {answers : List Message}, CanGive (answerCalls c nodeId tools calls) answers →
    List.Forall₂ (ToolCall.AnsweredBy tools) calls answers := by
  intro calls
  induction calls with
  | nil =>
    intro answers h
    rw [h.of_pure]
    exact .nil
  | cons call calls ih =>
    intro answers h
    obtain ⟨m, hm, h⟩ := h.of_bind
    obtain ⟨ms, hms, h⟩ := h.of_bind
    rw [h.of_pure]
    exact .cons (answerCall_gives hm) (ih hms)

end Exec

/-! ## 3. Rounds -/

namespace Exec.Exchange

variable (x : Exchange σ)

/-- The tools on offer when so many rounds may still offer tools. -/
def offer : Nat → List ToolDefinition
  | 0 => []
  | _ + 1 => x.tools.definitions

/-- The model was asked something and replied with a response. -/
def Gave (k : Contact σ) (q : CompletionRequest) (r : CompletionResponse) : Prop :=
  k.deed = .asked q ∧ ∃ reply, (x.complete q k.before).1 = .answered (.ok reply) ∧ reply.Amounts r

/-- **How a request follows from the one before**: its messages are the earlier ones, the message of
the assistant that carries the response, and one answer for each of its calls. -/
def Continues (k k' : Contact σ) : Prop :=
  ∃ q r m answers q', x.Gave k q r ∧ r.toolCalls ≠ [] ∧ m.Carries r ∧
    List.Forall₂ (ToolCall.AnsweredBy x.tools) r.toolCalls answers ∧ k'.deed = .asked q' ∧
    q'.messages = q.messages ++ m :: answers

end Exec.Exchange

/-- **The rounds of an exchange** from some messages on, of which so many may offer tools: the
contacts at which the model was asked, and the last response, if the rounds ended with one. -/
inductive Rounds (x : Exchange σ) :
    Nat → List Message → List (Contact σ) → Option CompletionResponse → Prop where
  /-- The run was cancelled before the model was asked. -/
  | unasked {left : Nat} {messages : List Message} : Rounds x left messages [] none
  /-- No response came of it, or its calls could not all be answered. -/
  | broken {left : Nat} {messages : List Message} {k : Contact σ}
      (asks : k.deed = .asked (x.body.request messages (x.offer left))) :
      Rounds x left messages [k] none
  /-- The response is the last one. -/
  | final {left : Nat} {messages : List Message} {k : Contact σ} {r : CompletionResponse}
      (gave : x.Gave k (x.body.request messages (x.offer left)) r)
      (last : left = 0 ∨ r.toolCalls = []) : Rounds x left messages [k] (some r)
  /-- The calls were answered, and another round followed. -/
  | next {left : Nat} {messages answers : List Message} {k : Contact σ} {r : CompletionResponse}
      {m : Message} {ks : List (Contact σ)} {o : Option CompletionResponse}
      (gave : x.Gave k (x.body.request messages (x.offer (left + 1))) r)
      (calls : r.toolCalls ≠ []) (carries : m.Carries r)
      (answered : List.Forall₂ (ToolCall.AnsweredBy x.tools) r.toolCalls answers)
      (rest : Rounds x left (messages ++ m :: answers) ks o) :
      Rounds x (left + 1) messages (k :: ks) o

namespace Rounds

variable {x : Exchange σ} {left : Nat} {messages : List Message} {ks : List (Contact σ)}
  {o : Option CompletionResponse}

/-- The first request has the messages to begin with and the tools on offer. -/
theorem head (h : Rounds x left messages ks o) {k : Contact σ} (hk : ks.head? = some k) :
    k.deed = .asked (x.body.request messages (x.offer left)) := by
  cases h with
  | unasked => cases hk
  | broken asks => rwa [← Option.some.inj hk]
  | final gave => rw [← Option.some.inj hk]; exact gave.1
  | next gave => rw [← Option.some.inj hk]; exact gave.1

/-- There are at most as many requests as rounds with tools, and one more. -/
theorem length_le (h : Rounds x left messages ks o) : ks.length ≤ left + 1 := by
  induction h with
  | unasked => exact Nat.zero_le _
  | broken => exact Nat.succ_le_succ (Nat.zero_le _)
  | final => exact Nat.succ_le_succ (Nat.zero_le _)
  | next _ _ _ _ _ ih => exact Nat.succ_le_succ ih

/-- Each request offers the tools, but for the one after all rounds with tools. -/
theorem offers (h : Rounds x left messages ks o) : ∀ {i : Nat} {k : Contact σ}, ks[i]? = some k →
    ∃ messages', k.deed = .asked (x.body.request messages' (x.offer (left - i))) := by
  induction h with
  | unasked => exact fun hk => nomatch hk
  | broken asks =>
    intro i k hk
    cases i with
    | zero => exact ⟨_, Option.some.inj hk ▸ asks⟩
    | succ i => cases hk
  | final gave =>
    intro i k hk
    cases i with
    | zero => exact ⟨_, Option.some.inj hk ▸ gave.1⟩
    | succ i => cases hk
  | next gave _ _ _ _ ih =>
    intro i k hk
    cases i with
    | zero => exact ⟨_, Option.some.inj hk ▸ gave.1⟩
    | succ i =>
      rw [Nat.add_sub_add_right]
      exact ih hk

/-- Every request but the first follows from the one before. -/
theorem isChain (h : Rounds x left messages ks o) : ks.IsChain x.Continues := by
  induction h with
  | unasked => exact .nil
  | broken => exact .singleton _
  | final => exact .singleton _
  | next gave calls carries answered rest ih =>
    refine List.isChain_cons.mpr ⟨fun k' hk' => ?_, ih⟩
    exact ⟨_, _, _, _, _, gave, calls, carries, answered, rest.head hk', rfl⟩

/-- The last response was given to the last request; it has no calls, or no rounds are left. -/
theorem last {r : CompletionResponse} (h : Rounds x left messages ks (some r)) :
    ∃ k q, ks.getLast? = some k ∧ x.Gave k q r ∧ (r.toolCalls = [] ∨ ks.length = left + 1) := by
  generalize ho : some r = o at h
  induction h with
  | unasked => cases ho
  | broken => cases ho
  | final gave last =>
    cases ho
    refine ⟨_, _, rfl, gave, last.symm.imp_right fun hleft => ?_⟩
    rw [hleft]
    rfl
  | next _ _ _ _ rest ih =>
    obtain ⟨k, q, hlast, hgave, hend⟩ := ih ho
    refine ⟨k, q, ?_, hgave, hend.imp_right fun hlength => congrArg Nat.succ hlength⟩
    rw [List.getLast?_cons, hlast]
    rfl

end Rounds

/-! ## 4. The rounds of a run -/

/-- The contacts of a record at which the model was asked. -/
def Record.asked (r : Record σ) : List (Contact σ) :=
  r.contacts.filter fun k => k.deed.request?.isSome

theorem Record.asked_note_of_none {r : Record σ} {deed : Deed} (h : deed.request? = none) (w : σ) :
    (r.note deed w).asked = r.asked := by
  unfold asked note
  rw [List.filter_append, List.filter_singleton, h]
  exact List.append_nil _

theorem Record.asked_note_of_some {r : Record σ} {deed : Deed} {q : CompletionRequest}
    (h : deed.request? = some q) (w : σ) :
    (r.note deed w).asked = r.asked ++ [⟨deed, r.world, w⟩] := by
  unfold asked note
  rw [List.filter_append, List.filter_singleton, h]
  rfl

/-- What a host with a record does is noted, and it is what the host does. -/
theorem Host.Makes.recorded {h : Host σ} {deed : Deed} {r r' : Record σ}
    (hmakes : h.recorded.Makes ⟨deed, r, r'⟩) :
    ∃ w, h.Makes ⟨deed, r.world, w⟩ ∧ r' = r.note deed w := by
  cases hmakes with
  | told e => exact ⟨_, .told e _, rfl⟩
  | waited => exact ⟨_, .waited _, rfl⟩
  | lapsed => exact ⟨_, .lapsed _, rfl⟩
  | drew bound => exact ⟨_, .drew bound _, rfl⟩
  | asked supplied q =>
    obtain ⟨service, hservice, rfl⟩ := Option.map_eq_some_iff.mp supplied
    exact ⟨_, .asked hservice q _, rfl⟩
  | searched supplied q =>
    obtain ⟨service, hservice, rfl⟩ := Option.map_eq_some_iff.mp supplied
    exact ⟨_, .searched hservice q _, rfl⟩
  | counted supplied u =>
    obtain ⟨service, hservice, rfl⟩ := Option.map_eq_some_iff.mp supplied
    exact ⟨_, .counted hservice u _, rfl⟩

/-- The model was not asked between two sessions. -/
def Session.SameRequests (s t : Session (Record σ)) : Prop := t.world.asked = s.world.asked

theorem Frame.admits_sameRequests (c : Frame σ) : c.recorded.Admits Session.SameRequests where
  refl _ := rfl
  trans h h' := h'.trans h
  resolver _ _ := rfl
  world hmakes hdeed := by
    obtain ⟨w, -, hw⟩ := hmakes.recorded
    unfold Session.SameRequests
    rw [hw]
    exact Record.asked_note_of_none hdeed w

theorem allows_sameRequests (writes : Operation → Prop) :
    Allows (Session.SameRequests (σ := σ)) writes := fun _ _ _ => rfl

theorem Arrival.eq_answered {α : Type} {a : Arrival α} {v : α} (h : a.result = .ok v) :
    a = .answered (.ok v) := by
  cases a with
  | answered result => exact congrArg Arrival.answered h
  | interrupted => cases h

namespace Exec

variable {c : Frame σ}

theorem canGive_of_settle {α : Type} {act : Exec σ α} {s s' : Session σ} {a : α}
    (h : settle act s = (.ok a, s')) : CanGive act a := by
  unfold settle at h
  split at h
  · next hact =>
    cases h
    exact ⟨_, _, hact⟩
  · cases h

/-- The same exchange with a model whose use is noted. -/
def Exchange.recorded (x : Exchange σ) : Exchange (Record σ) where
  nodeId := x.nodeId
  body := x.body
  tools := x.tools
  complete q := Record.noting (.asked q) (x.complete q)

/-- A service that is asked while the run is not cancelled, and whose use is noted: the run was
cancelled before, or the service did not answer, or what follows begins with the answer. -/
theorem settle_checkedAwait_noting {α β : Type} (deed : Deed) (service : σ → Arrival α × σ)
    (k : α → Exec (Record σ) β) (s : Session (Record σ)) {t : Session (Record σ)}
    (ht : t = { s with world := s.world.note deed (service s.world.world).2 }) :
    (settle (checkCancelled c.recorded >>= fun _ => await (Record.noting deed service) >>= k) s =
      (.error .cancelled, s)) ∨
    (∃ f, settle (checkCancelled c.recorded >>= fun _ =>
      await (Record.noting deed service) >>= k) s = (.error f, t)) ∨
    ∃ a, (service s.world.world).1 = .answered (.ok a) ∧
      settle (checkCancelled c.recorded >>= fun _ => await (Record.noting deed service) >>= k) s =
        settle (k a) t := by
  have hcheck := settle_checkCancelled c.recorded s
  have hawait : settle (await (Record.noting deed service)) s =
      ((service s.world.world).1.result, t) := (settle_await _ s).trans (by rw [ht]; rfl)
  cases hc : c.recorded.host.cancelled s.world with
  | true =>
    rw [hc, if_pos rfl] at hcheck
    exact .inl (settle_bind_of_error hcheck)
  | false =>
    rw [hc, if_neg Bool.false_ne_true] at hcheck
    rw [settle_bind_of_ok hcheck]
    cases hanswer : (service s.world.world).1.result with
    | error f =>
      rw [hanswer] at hawait
      exact .inr (.inl ⟨f, settle_bind_of_error hawait⟩)
    | ok a =>
      rw [hanswer] at hawait
      exact .inr (.inr ⟨a, Arrival.eq_answered hanswer, settle_bind_of_ok hawait⟩)

/-- One request: the run was cancelled before it, or the model was asked, and the response is what
its reply amounts to. -/
theorem askModel_asked (x : Exchange σ) (messages : List Message) (tools : List ToolDefinition)
    {s s' : Session (Record σ)} {result : Except Fault CompletionResponse}
    (h : settle (askModel c.recorded x.recorded messages tools) s = (result, s')) :
    (result = .error .cancelled ∧ s'.world.asked = s.world.asked) ∨
    ∃ k, s'.world.asked = s.world.asked ++ [k] ∧
      k.deed = .asked (x.body.request messages tools) ∧
      ∀ r, result = .ok r → x.Gave k (x.body.request messages tools) r := by
  obtain ⟨q, hq⟩ : ∃ q, q = x.body.request messages tools := ⟨_, rfl⟩
  replace h : settle (checkCancelled c.recorded >>= fun _ =>
      await (Record.noting (.asked q) (x.complete q)) >>= takeReply c.recorded x.nodeId) s =
      (result, s') := by
    rw [hq]
    exact h
  rw [← hq]
  have hasked : (s.world.note (.asked q) (x.complete q s.world.world).2).asked =
      s.world.asked ++ [⟨.asked q, s.world.world, (x.complete q s.world.world).2⟩] :=
    Record.asked_note_of_some rfl _
  rcases settle_checkedAwait_noting (c := c) (.asked q) (x.complete q)
    (takeReply c.recorded x.nodeId) s rfl with hcancelled | ⟨f, hfailed⟩ | ⟨reply, hreply, htake⟩
  · obtain ⟨rfl, rfl⟩ := Prod.mk.inj (hcancelled.symm.trans h)
    exact .inl ⟨rfl, rfl⟩
  · obtain ⟨rfl, rfl⟩ := Prod.mk.inj (hfailed.symm.trans h)
    exact .inr ⟨_, hasked, rfl, nofun⟩
  · rw [htake] at h
    have hsame := (takeReply_keeps c.admits_sameRequests x.nodeId reply).related h
    refine .inr ⟨_, hsame.trans hasked, rfl, ?_⟩
    rintro r rfl
    exact ⟨rfl, reply, hreply, takeReply_gives (canGive_of_settle h)⟩

/-- What follows a request begins with its response; without a response the rounds end. -/
theorem askModel_bind (x : Exchange σ) (left : Nat) (messages : List Message) {α : Type}
    {next : CompletionResponse → Exec (Record σ) α} {s s' : Session (Record σ)}
    {result : Except Fault α}
    (h : settle (askModel c.recorded x.recorded messages (x.offer left) >>= next) s =
      (result, s')) :
    (∃ f ks, result = .error f ∧ s'.world.asked = s.world.asked ++ ks ∧
      Rounds x left messages ks none) ∨
    ∃ k r s₁, s₁.world.asked = s.world.asked ++ [k] ∧
      x.Gave k (x.body.request messages (x.offer left)) r ∧ settle (next r) s₁ = (result, s') := by
  cases hask : settle (askModel c.recorded x.recorded messages (x.offer left)) s with
  | mk first s₁ =>
    have hasked := askModel_asked x messages (x.offer left) hask
    cases first with
    | error f =>
      rw [settle_bind_of_error hask] at h
      cases h
      left
      rcases hasked with ⟨-, hsame⟩ | ⟨k, hnew, hdeed, -⟩
      · exact ⟨f, [], rfl, hsame.trans (List.append_nil _).symm, .unasked⟩
      · exact ⟨f, [k], rfl, hnew, .broken hdeed⟩
    | ok r =>
      rw [settle_bind_of_ok hask] at h
      right
      rcases hasked with ⟨hcancelled, -⟩ | ⟨k, hnew, -, hgave⟩
      · cases hcancelled
      · exact ⟨k, r, s₁, hnew, hgave r rfl, h⟩

/-- What follows the calls of a response begins with their answers; the model was not asked. -/
theorem answerCalls_bind {nodeId : String} {tools : ToolSet} {calls : List ToolCall} {α : Type}
    {next : List Message → Exec (Record σ) α} {s s' : Session (Record σ)} {result : Except Fault α}
    (h : settle (answerCalls c.recorded nodeId tools calls >>= next) s = (result, s')) :
    (∃ f, result = .error f ∧ s'.world.asked = s.world.asked) ∨
    ∃ answers s₁, s₁.world.asked = s.world.asked ∧
      List.Forall₂ (ToolCall.AnsweredBy tools) calls answers ∧
      settle (next answers) s₁ = (result, s') := by
  have hsame := answerCalls_keeps c.admits_sameRequests nodeId (allows_sameRequests _) tools calls s
  cases hcalls : settle (answerCalls c.recorded nodeId tools calls) s with
  | mk first s₁ =>
    rw [hcalls] at hsame
    cases first with
    | error f =>
      rw [settle_bind_of_error hcalls] at h
      cases h
      exact Or.inl ⟨f, rfl, hsame⟩
    | ok answers =>
      rw [settle_bind_of_ok hcalls] at h
      exact Or.inr ⟨answers, s₁, hsame, answerCalls_gives (canGive_of_settle hcalls), h⟩

/-- **The rounds are what they should be**, whatever the model replies and the tools do. -/
theorem rounds_exchange (x : Exchange σ) (left : Nat) : ∀ {messages : List Message}
    {usage : Option Usage} {s s' : Session (Record σ)}
    {result : Except Fault (String × Option Usage)},
    settle (rounds c.recorded x.recorded left messages usage) s = (result, s') →
    ∃ ks o, s'.world.asked = s.world.asked ++ ks ∧ Rounds x left messages ks o ∧
      ∀ ending, result = .ok ending → ∃ r, o = some r := by
  induction left with
  | zero =>
    intro messages usage s s' result h
    rcases askModel_bind x 0 messages h with ⟨f, ks, rfl, hks, hrounds⟩ | ⟨k, r, s₁, hk, hgave, h⟩
    · exact ⟨ks, none, hks, hrounds, nofun⟩
    · cases h
      exact ⟨[k], some r, hk, .final hgave (Or.inl rfl), fun _ _ => ⟨r, rfl⟩⟩
  | succ left ih =>
    intro messages usage s s' result h
    rcases askModel_bind x (left + 1) messages h with
      ⟨f, ks, rfl, hks, hrounds⟩ | ⟨k, r, s₁, hk, hgave, h⟩
    · exact ⟨ks, none, hks, hrounds, nofun⟩
    · dsimp only at h
      split at h
      · next hempty =>
        cases h
        have hnone : r.toolCalls = [] := List.isEmpty_iff.mp hempty
        exact ⟨[k], some r, hk, .final hgave (Or.inr hnone), fun _ _ => ⟨r, rfl⟩⟩
      · next hcalls =>
        have hsome : r.toolCalls ≠ [] := fun hnone => hcalls (List.isEmpty_iff.mpr hnone)
        rcases answerCalls_bind h with ⟨f, rfl, hsame⟩ | ⟨answers, s₂, hsame, hanswered, h⟩
        · exact ⟨[k], none, hsame.trans hk, .broken hgave.1, nofun⟩
        · obtain ⟨ks, o, hks, hrest, hend⟩ := ih h
          refine ⟨k :: ks, o, ?_, .next hgave hsome r.message_carries hanswered hrest, hend⟩
          rw [hks, hsame, hk, List.append_assoc]
          rfl

end Exec

/-! ## 5. A completion node -/

/-- The state with some fragments in its context, each added unless it is there. -/
def RunState.guided (fragments : List Fragment) (s : RunState) : RunState :=
  fragments.foldl (fun s f => if f ∈ s.context then s else s.pushContext f) s

/-- How many rounds may offer tools: the node's own limit, or else the configured one. -/
def CompletionBody.roundLimit (b : CompletionBody) (settings : Settings) : Nat :=
  b.maxToolRounds.getD settings.completion.maxToolRounds

/-- A session with an empty record. -/
def Session.watched (s : Session σ) : Session (Record σ) where
  state := s.state
  resolver := s.resolver
  world := { world := s.world }

/-- **The protocol of tool rounds**: what the model was asked in an exchange, of which so many
rounds may offer tools, and how the node ended. -/
structure ToolRounds (x : Exchange σ) (limit : Nat) (opening : List Message)
    (asked : List (Contact σ)) (result : Except Fault Transition) : Prop where
  bounded : asked.length ≤ limit + 1
  /-- The first request has the opening messages. -/
  opens : ∀ k, asked.head? = some k → ∃ q, k.deed = .asked q ∧ q.messages = opening
  /-- The requests offer the definitions of all tools while rounds are left, and then none. -/
  offers : ∀ i k, asked[i]? = some k → ∃ q, k.deed = .asked q ∧
    q.tools = if i < limit then x.tools.tools.map (·.definition) else []
  /-- Each request follows from the one before. -/
  continues : asked.IsChain x.Continues
  /-- A node that succeeds got a last response, without calls or in the last round. -/
  ends : ∀ t, result = .ok t → ∃ k q r, asked.getLast? = some k ∧ x.Gave k q r ∧
    (r.toolCalls = [] ∨ asked.length = limit + 1)

theorem Exec.Exchange.offer_sub (x : Exchange σ) (limit i : Nat) :
    x.offer (limit - i) = if i < limit then x.tools.tools.map (·.definition) else [] := by
  split
  · next h =>
    obtain ⟨d, hd⟩ : ∃ d, limit - i = d + 1 := ⟨limit - i - 1, by omega⟩
    rw [hd]
    rfl
  · next h =>
    rw [Nat.sub_eq_zero_of_le (Nat.le_of_not_lt h)]
    rfl

theorem Rounds.toolRounds {x : Exchange σ} {limit : Nat} {opening : List Message}
    {asked : List (Contact σ)} {o : Option CompletionResponse} {result : Except Fault Transition}
    (h : Rounds x limit opening asked o) (ho : ∀ t, result = .ok t → ∃ r, o = some r) :
    ToolRounds x limit opening asked result where
  bounded := h.length_le
  opens k hk := ⟨_, h.head hk, rfl⟩
  offers i k hk := by
    obtain ⟨messages, hdeed⟩ := h.offers hk
    exact ⟨_, hdeed, x.offer_sub limit i⟩
  continues := h.isChain
  ends t ht := by
    obtain ⟨r, rfl⟩ := ho t ht
    obtain ⟨k, q, hlast, hgave, hend⟩ := h.last
    exact ⟨k, q, r, hlast, hgave, hend⟩

/-- **What a completion node asks**, from a session on. -/
structure Consults (c : Frame σ) (n : Node) (b : CompletionBody) (s : Session σ)
    (result : Except Fault Transition) (s' : Session (Record σ)) : Prop where
  recorded : settle (execute c.recorded n) s.watched = (result, s')
  /-- Without the record the node does the same. -/
  bare : settle (execute c n) s = (result, s'.bare)
  leads : c.host.Leads s.world s'.world.contacts s'.world.world
  /-- Nothing is asked when the node is muted, when there is no model, or when its tools cannot be
  collected. -/
  quiet : n.data.muted = true ∨ c.host.completion = none ∨
    (∃ f, (collect c.engine c.graph s.state c.settings.context n.id s.resolver).1 = .error f) →
    s'.world.asked = []
  /-- Otherwise the requests follow the protocol. -/
  rounds : ∀ service tools, n.data.muted = false → c.host.completion = some service →
    (collect c.engine c.graph s.state c.settings.context n.id s.resolver).1 = .ok tools →
    ToolRounds { nodeId := n.id, body := b, tools, complete := service } (b.roundLimit c.settings)
      (b.openingMessages (s.state.guided tools.context) s.state.payload.asPrompt)
      s'.world.asked result

theorem RunState.guided_payload (fragments : List Fragment) (s : RunState) :
    (s.guided fragments).payload = s.payload := by
  unfold guided
  induction fragments generalizing s with
  | nil => rfl
  | cons f fragments ih =>
    rw [List.foldl_cons, ih]
    split <;> rfl

namespace Exec

variable {c : Frame σ}

theorem settle_traceLogs (lines : List String) (s : Session σ) :
    ∃ w, settle (traceLogs c lines) s = (.ok (), { s with world := w }) := by
  induction lines generalizing s with
  | nil => exact ⟨s.world, rfl⟩
  | cons line lines ih => exact ih _

/-- Reading values gives what the resolver gives, and leaves the state alone. -/
theorem settle_read {α : Type} (act : StateM Resolver α) (s : Session σ) :
    ∃ s', settle (read c act) s = (.ok (act s.resolver).1, s') ∧ s'.state = s.state := by
  obtain ⟨w, hw⟩ := settle_traceLogs (c := c) ((act s.resolver).2.takeLogs).1
    { s with resolver := ((act s.resolver).2.takeLogs).2 }
  exact ⟨_, settle_bind_of_ok hw, rfl⟩

/-- The tools are the ones that are collected; their guidance is in the state then. When they cannot
be collected, the state is as it was. -/
theorem settle_gatherTools (nodeId : String) (s : Session σ) : ∃ s',
    settle (gatherTools c nodeId) s =
      ((collect c.engine c.graph s.state c.settings.context nodeId s.resolver).1, s') ∧
    (∀ f, (collect c.engine c.graph s.state c.settings.context nodeId s.resolver).1 = .error f →
      s'.state = s.state) ∧
    ∀ tools, (collect c.engine c.graph s.state c.settings.context nodeId s.resolver).1 = .ok tools →
      s'.state = s.state.guided tools.context := by
  obtain ⟨s₁, hread, hstate⟩ := settle_read (c := c)
    (collect c.engine c.graph s.state c.settings.context nodeId) s
  have hlook : settle (state : Exec σ RunState) s = (.ok s.state, s) := rfl
  unfold gatherTools
  rw [settle_bind_of_ok hlook, settle_bind_of_ok hread]
  cases (collect c.engine c.graph s.state c.settings.context nodeId s.resolver).1 with
  | error f => exact ⟨s₁, settle_bind_of_error rfl, fun _ _ => hstate, nofun⟩
  | ok tools =>
    have hok : settle (ofExcept (.ok tools) : Exec σ ToolSet) s₁ = (.ok tools, s₁) := rfl
    have hadd : settle (addGuidance tools.context : Exec σ Unit) s₁ =
        (.ok (), { s₁ with state := s₁.state.guided tools.context }) := rfl
    rw [settle_bind_of_ok hok, settle_bind_of_ok hadd, ← hstate]
    split
    · refine ⟨_, settle_bind_of_ok rfl, nofun, fun tools' htools' => ?_⟩
      cases htools'
      rfl
    · refine ⟨_, rfl, nofun, fun tools' htools' => ?_⟩
      cases htools'
      rfl

/-- What a node asks with its tools. -/
theorem consult_rounds (x : Exchange σ) {s s' : Session (Record σ)} {result : Except Fault Unit}
    (h : settle (consult c.recorded x.nodeId x.body x.recorded.complete x.tools) s = (result, s')) :
    ∃ ks o, s'.world.asked = s.world.asked ++ ks ∧
      Rounds x (x.body.roundLimit c.settings)
        (x.body.openingMessages s.state s.state.payload.asPrompt) ks o ∧
      ∀ u, result = .ok u → ∃ r, o = some r := by
  replace h : settle (rounds c.recorded x.recorded (x.body.roundLimit c.settings)
      (x.body.openingMessages s.state s.state.payload.asPrompt) none >>=
      conclude c.recorded x.nodeId x.body s.state.payload.asPrompt) s = (result, s') := h
  cases hrounds : settle (rounds c.recorded x.recorded (x.body.roundLimit c.settings)
      (x.body.openingMessages s.state s.state.payload.asPrompt) none) s with
  | mk ending s₁ =>
    obtain ⟨ks, o, hks, hexchange, hend⟩ := rounds_exchange x _ hrounds
    cases ending with
    | error f =>
      rw [settle_bind_of_error hrounds] at h
      cases h
      exact ⟨ks, o, hks, hexchange, nofun⟩
    | ok ending =>
      rw [settle_bind_of_ok hrounds] at h
      have hsame := conclude_keeps c.admits_sameRequests x.nodeId x.body (allows_sameRequests _)
        s.state.payload.asPrompt ending s₁
      rw [h] at hsame
      exact ⟨ks, o, hsame.trans hks, hexchange, fun _ _ => hend ending rfl⟩

/-- Without a model or without tools that can be collected nothing is asked. -/
theorem complete_quiet (nodeId : String) (b : CompletionBody) (s : Session (Record σ))
    (h : c.host.completion = none ∨
      ∃ f, (collect c.engine c.graph s.state c.settings.context nodeId s.resolver).1 = .error f) :
    (settle (complete c.recorded nodeId b) s).2.world.asked = s.world.asked := by
  cases hservice : c.recorded.host.completion with
  | none =>
    unfold complete
    rw [hservice]
    rfl
  | some service =>
    rcases h with hnone | ⟨f, hf⟩
    · rw [Frame.recorded_completion, hnone] at hservice
      cases hservice
    · obtain ⟨s₁, hgather, -⟩ := settle_gatherTools (c := c.recorded) nodeId s
      have hsame := gatherTools_keeps c.admits_sameRequests nodeId (allows_sameRequests _) s
      rw [hgather] at hsame
      rw [complete_eq hservice, settle_bind_of_error (hgather.trans (congrArg (·, s₁) hf))]
      exact hsame

/-- With a model and with tools the node goes through the rounds. -/
theorem complete_rounds {nodeId : String} {b : CompletionBody} {s s' : Session (Record σ)}
    {result : Except Fault Unit} (h : settle (complete c.recorded nodeId b) s = (result, s'))
    {service : CompletionRequest → σ → Arrival Reply × σ}
    (hservice : c.host.completion = some service) {tools : ToolSet} (htools :
      (collect c.engine c.graph s.state c.settings.context nodeId s.resolver).1 = .ok tools) :
    ∃ ks o, s'.world.asked = s.world.asked ++ ks ∧
      Rounds { nodeId, body := b, tools, complete := service } (b.roundLimit c.settings)
        (b.openingMessages (s.state.guided tools.context) s.state.payload.asPrompt) ks o ∧
      ∀ u, result = .ok u → ∃ r, o = some r := by
  obtain ⟨s₁, hgather, -, hstate⟩ := settle_gatherTools (c := c.recorded) nodeId s
  have hsame := gatherTools_keeps c.admits_sameRequests nodeId (allows_sameRequests _) s
  rw [hgather] at hsame
  rw [complete_eq (Frame.recorded_completion_of_some hservice),
    settle_bind_of_ok (hgather.trans (congrArg (·, s₁) htools))] at h
  obtain ⟨ks, o, hks, hrounds, hend⟩ :=
    consult_rounds { nodeId, body := b, tools, complete := service } h
  rw [hstate tools htools, RunState.guided_payload] at hrounds
  exact ⟨ks, o, hks.trans (congrArg (· ++ ks) hsame), hrounds, hend⟩

end Exec

theorem Exec.traced_asked (c : Frame σ) (message : String) (s : Session (Record σ)) :
    (traced c.recorded message s).world.asked = s.world.asked := Record.asked_note_of_none rfl _

/-- A muted node asks nothing. -/
theorem Exec.execute_muted (c : Frame σ) {n : Node} (h : n.data.muted = true)
    (s : Session (Record σ)) :
    (settle (execute c.recorded n) s).2.world.asked = s.world.asked := by
  rw [settle_execute_muted h]
  exact (traced_asked c _ _).trans (traced_asked c _ s)

/-- A completion node that is not muted does what its body says, after its entry was traced. -/
theorem Exec.execute_completion (c : Frame σ) {n : Node} {b : CompletionBody}
    (hmuted : n.data.muted = false) (hbody : n.data.body = .completion b)
    (s : Session (Record σ)) : ∃ s₁, s₁.state = s.state ∧ s₁.resolver = s.resolver ∧
      s₁.world.asked = s.world.asked ∧ settle (execute c.recorded n) s =
        ((settle (complete c.recorded n.id b) s₁).1.map fun _ => {},
          (settle (complete c.recorded n.id b) s₁).2) := by
  rw [settle_execute hmuted, hbody, settle_perform_completion]
  exact ⟨traced c.recorded _ s, rfl, rfl, traced_asked c _ s, rfl⟩

/-- **A completion node keeps the protocol**, in whatever session it is executed, whatever the model
replies and the tools do. -/
theorem execute_consults (c : Frame σ) (n : Node) (b : CompletionBody) (s : Session σ)
    (h : n.data.body = .completion b) : ∃ result s', Consults c n b s result s' := by
  obtain ⟨result, s', hrecorded, hbare, -, ks, hks, hleads, -⟩ :=
    execute_mirrors c s.state.outputs n s.watched rfl
  have hcontacts : s'.world.contacts = ks := hks
  rw [← hcontacts] at hleads
  refine ⟨result, s', hrecorded, hbare, hleads, ?_, ?_⟩
  · intro hquiet
    cases hmuted : n.data.muted with
    | true =>
      have hasked := execute_muted c hmuted s.watched
      rw [hrecorded] at hasked
      exact hasked
    | false =>
      obtain ⟨s₁, hstate, hresolver, hasked, hexecute⟩ :=
        execute_completion c hmuted h s.watched
      have hstate : s₁.state = s.state := hstate
      have hresolver : s₁.resolver = s.resolver := hresolver
      have hreason := hquiet.resolve_left (by rw [hmuted]; exact Bool.false_ne_true)
      rw [← hstate, ← hresolver] at hreason
      have hnone := complete_quiet n.id b s₁ hreason
      rw [hrecorded] at hexecute
      rw [(Prod.mk.inj hexecute).2]
      exact hnone.trans hasked
  · intro service tools hmuted hservice htools
    obtain ⟨s₁, hstate, hresolver, hasked, hexecute⟩ := execute_completion c hmuted h s.watched
    have hstate : s₁.state = s.state := hstate
    have hresolver : s₁.resolver = s.resolver := hresolver
    cases hcomplete : settle (complete c.recorded n.id b) s₁ with
    | mk ended s₂ =>
      rw [hrecorded, hcomplete] at hexecute
      obtain ⟨rfl, rfl⟩ := Prod.mk.inj hexecute
      rw [← hstate, ← hresolver] at htools
      obtain ⟨asked, o, hnew, hrounds, hend⟩ := complete_rounds hcomplete hservice htools
      rw [hstate] at hrounds
      have hall : s'.world.asked = asked := by
        rw [hnew, hasked]
        rfl
      rw [hall]
      refine hrounds.toolRounds fun t ht => ?_
      cases ended with
      | ok u => exact hend u rfl
      | error f => cases ht

/-- The model calls a tool that is not there and searches without a query, under one id, and then
greets. -/
def insistent : Rehearsal :=
  { model := [
      (false, .whole { toolCalls := [⟨"1", "toss", .object []⟩, ⟨"1", searchName, .object []⟩] }),
      (false, .whole { content := "Hello" })] }

theorem assistant_consults : (NodeBody.initial .completion) = .completion {} ∧ ∃ result s',
    Consults assistant.rehearsal ⟨"ask", .completion, .initial .completion⟩ {}
      { state := {}, world := insistent } result s' :=
  ⟨rfl, execute_consults assistant.rehearsal ⟨"ask", .completion, .initial .completion⟩ {}
    { state := {}, world := insistent } rfl⟩

end Workgraph
