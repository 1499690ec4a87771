import Workgraph.Proofs.Rounds

/-!
# What is heard in an exchange

The record of a host shows what a model was asked. This file says what came of it: which responses
arrived in full, and how the rounds ended.

* `Exchange.Heard` has one rule for each way in which a round can go. `rounds_heard` says that it
  describes `Exec.rounds`: the result is the text of the last response with the tally of all.
* `Heard.within`: what asking the model and answering its calls stay within, an exchange does.
* `Heard.replied`: the responses are what the first requests of the exchange were replied with; at
  most one more request was sent, of which no response arrived in full.
-/

namespace Workgraph

open Exec Tools

variable {σ : Type}

/-! ## 1. Responses that arrive in full -/

namespace Exec.Exchange

/-- **What is heard in the rounds of an exchange** from some messages and a session on, of which so
many may offer tools: the responses that arrive in full, and the last one, or the fault with which
the rounds end. -/
inductive Heard (c : Frame σ) (x : Exchange σ) : Nat → List Message → Session σ →
    List CompletionResponse → Except Fault CompletionResponse → Session σ → Prop where
  /-- No response arrives in full. -/
  | nothing {left : Nat} {messages : List Message} {s t : Session σ} {f : Fault}
      (asks : settle (askModel c x messages (x.offer left)) s = (.error f, t)) :
      Heard c x left messages s [] (.error f) t
  /-- The response is the last one. -/
  | final {left : Nat} {messages : List Message} {s t : Session σ} {r : CompletionResponse}
      (asks : settle (askModel c x messages (x.offer left)) s = (.ok r, t))
      (last : left = 0 ∨ r.toolCalls = []) : Heard c x left messages s [r] (.ok r) t
  /-- The calls of the response cannot all be answered. -/
  | unanswered {left : Nat} {messages : List Message} {s t u : Session σ} {r : CompletionResponse}
      {f : Fault} (asks : settle (askModel c x messages (x.offer (left + 1))) s = (.ok r, t))
      (calls : r.toolCalls ≠ [])
      (answers : settle (answerCalls c x.nodeId x.tools r.toolCalls) t = (.error f, u)) :
      Heard c x (left + 1) messages s [r] (.error f) u
  /-- The calls are answered, and another round follows. -/
  | next {left : Nat} {messages answered : List Message} {s t u v : Session σ}
      {r : CompletionResponse} {rs : List CompletionResponse} {o : Except Fault CompletionResponse}
      (asks : settle (askModel c x messages (x.offer (left + 1))) s = (.ok r, t))
      (calls : r.toolCalls ≠ [])
      (answers : settle (answerCalls c x.nodeId x.tools r.toolCalls) t = (.ok answered, u))
      (rest : Heard c x left (messages ++ r.message :: answered) u rs o v) :
      Heard c x (left + 1) messages s (r :: rs) o v

end Exec.Exchange

/-- The tally of some responses, after an earlier one. -/
def Usage.tallyAll (total : Option Usage) (rs : List CompletionResponse) : Option Usage :=
  rs.foldl (fun total r => tally total r.usage) total

namespace Exec

variable {c : Frame σ}

/-- **The rounds are what is heard in them**, whatever the model replies and the tools do. -/
theorem rounds_heard (x : Exchange σ) (left : Nat) : ∀ {messages : List Message}
    {usage : Option Usage} {s s' : Session σ} {result : Except Fault (String × Option Usage)},
    settle (rounds c x left messages usage) s = (result, s') →
    ∃ rs o, x.Heard c left messages s rs o s' ∧
      result = o.map fun r => (r.content, Usage.tallyAll usage rs) := by
  induction left with
  | zero =>
    intro messages usage s s' result h
    cases hask : settle (askModel c x messages (x.offer 0)) s with
    | mk first t =>
      cases first with
      | error f =>
        obtain ⟨rfl, rfl⟩ := Prod.mk.inj ((settle_bind_of_error hask).symm.trans h)
        exact ⟨[], .error f, .nothing hask, rfl⟩
      | ok r =>
        obtain ⟨rfl, rfl⟩ := Prod.mk.inj ((settle_bind_of_ok hask).symm.trans h)
        exact ⟨[r], .ok r, .final hask (.inl rfl), rfl⟩
  | succ left ih =>
    intro messages usage s s' result h
    cases hask : settle (askModel c x messages (x.offer (left + 1))) s with
    | mk first t =>
      cases first with
      | error f =>
        obtain ⟨rfl, rfl⟩ := Prod.mk.inj ((settle_bind_of_error hask).symm.trans h)
        exact ⟨[], .error f, .nothing hask, rfl⟩
      | ok r =>
        replace h := (settle_bind_of_ok hask).symm.trans h
        dsimp only at h
        split at h
        · next hempty =>
          cases h
          exact ⟨[r], .ok r, .final hask (.inr (List.isEmpty_iff.mp hempty)), rfl⟩
        · next hcalls =>
          have hsome : r.toolCalls ≠ [] := fun hnone => hcalls (List.isEmpty_iff.mpr hnone)
          cases hanswer : settle (answerCalls c x.nodeId x.tools r.toolCalls) t with
          | mk answers u =>
            cases answers with
            | error f =>
              rw [settle_bind_of_error hanswer] at h
              cases h
              exact ⟨[r], .error f, .unanswered hask hsome hanswer, rfl⟩
            | ok answered =>
              rw [settle_bind_of_ok hanswer] at h
              obtain ⟨rs, o, hheard, hresult⟩ := ih h
              exact ⟨r :: rs, o, .next hask hsome hanswer hheard, hresult⟩

namespace Exchange.Heard

variable {x : Exchange σ} {left : Nat} {messages : List Message} {s t : Session σ}
  {rs : List CompletionResponse} {o : Except Fault CompletionResponse}

/-- What the parts of a round stay within, the exchange does. -/
theorem within {R : Session σ → Session σ → Prop} (htrans : ∀ {s t u}, R s t → R t u → R s u)
    (hasks : ∀ messages tools, Keeps R (askModel c x messages tools))
    (hanswers : ∀ calls, Keeps R (answerCalls c x.nodeId x.tools calls))
    (h : x.Heard c left messages s rs o t) : R s t := by
  induction h with
  | nothing asks => exact (hasks _ _).related asks
  | final asks => exact (hasks _ _).related asks
  | unanswered asks _ answers =>
    exact htrans ((hasks _ _).related asks) ((hanswers _).related answers)
  | next asks _ answers _ ih =>
    exact htrans ((hasks _ _).related asks) (htrans ((hanswers _).related answers) ih)

end Exchange.Heard

end Exec

/-! ## 2. Requests and responses -/

/-- A host replied to a request, and the reply amounts to a response. -/
def Host.Replied (h : Host σ) (k : Contact σ) (r : CompletionResponse) : Prop :=
  ∃ service q reply, h.completion = some service ∧ k.deed = .asked q ∧
    (service q k.before).1 = .answered (.ok reply) ∧ reply.Amounts r

namespace Exec.Exchange

variable {c : Frame σ} {x : Exchange σ} (hservice : c.host.completion = some x.complete)

include hservice

theorem Gave.replied {k : Contact σ} {q : CompletionRequest} {r : CompletionResponse}
    (h : x.Gave k q r) : c.host.Replied k r := by
  obtain ⟨hdeed, reply, hreply, hamounts⟩ := h
  exact ⟨x.complete, q, reply, hservice, hdeed, hreply, hamounts⟩

/-- A response that arrived in full is what the one request was replied with. -/
theorem askModel_replied {messages : List Message} {tools : List ToolDefinition}
    {s t : Session (Record σ)} {r : CompletionResponse}
    (h : settle (askModel c.recorded x.recorded messages tools) s = (.ok r, t)) :
    ∃ k, t.world.asked = s.world.asked ++ [k] ∧ c.host.Replied k r := by
  rcases askModel_asked x messages tools h with ⟨hcancelled, -⟩ | ⟨k, hk, -, hgave⟩
  · cases hcancelled
  · exact ⟨k, hk, (hgave r rfl).replied hservice⟩

/-- **The first requests were replied with what was heard**; no more than one followed, and none
when there was a last response. -/
theorem Heard.replied {left : Nat} {messages : List Message} {s t : Session (Record σ)}
    {rs : List CompletionResponse} {o : Except Fault CompletionResponse}
    (h : x.recorded.Heard c.recorded left messages s rs o t) :
    ∃ ks late, t.world.asked = s.world.asked ++ ks ++ late ∧ List.Forall₂ c.host.Replied ks rs ∧
      late.length ≤ 1 ∧ ∀ r, o = .ok r → late = [] := by
  have hsame {calls : List ToolCall} {t u : Session (Record σ)} {answers}
      (hanswers : settle (answerCalls c.recorded x.nodeId x.tools calls) t = (answers, u)) :
      u.world.asked = t.world.asked :=
    (answerCalls_keeps c.admits_sameRequests x.nodeId (allows_sameRequests _) x.tools
      calls).related hanswers
  induction h with
  | nothing asks =>
    rcases askModel_asked x _ _ asks with ⟨-, hk⟩ | ⟨k, hk, -, -⟩
    · exact ⟨[], [], by rw [hk, List.append_nil, List.append_nil], .nil, Nat.zero_le _, nofun⟩
    · exact ⟨[], [k], by rw [hk, List.append_nil], .nil, Nat.le_refl _, nofun⟩
  | final asks =>
    obtain ⟨k, hk, hr⟩ := askModel_replied hservice asks
    exact ⟨[k], [], by rw [hk, List.append_nil], .cons hr .nil, Nat.zero_le _, fun _ _ => rfl⟩
  | unanswered asks _ answers =>
    obtain ⟨k, hk, hr⟩ := askModel_replied hservice asks
    refine ⟨[k], [], ?_, .cons hr .nil, Nat.zero_le _, nofun⟩
    rw [hsame answers, hk, List.append_nil]
  | next asks _ answers _ ih =>
    obtain ⟨k, hk, hr⟩ := askModel_replied hservice asks
    obtain ⟨ks, late, hks, hrs, hlate, hend⟩ := ih
    refine ⟨k :: ks, late, ?_, .cons hr hrs, hlate, hend⟩
    rw [hks, hsame answers, hk, List.append_cons _ k ks]

end Exec.Exchange

end Workgraph
