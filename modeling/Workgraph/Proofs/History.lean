import Workgraph.Proofs.Recall

/-!
# Any sequence of writes and reads

A run writes to its state and reads from its resolver in an order that the graph decides. This file
allows every order.

* `Operation` are the things that happen to a state and its resolver. `ask_sound` is what each of
  them keeps: the memory is sound for the state.
* `answers_eq_truths` is about any sequence of operations that leaves the dialogue as it is: the
  answers are those that no memory would give. The wiring may be cyclic; where reading begins then
  decides where it is cut, and the remembered inputs tell the cuts apart.
-/

namespace Workgraph

/-! ## 1. Operations -/

/-- What happens to a state and its resolver in the course of a run. -/
inductive Operation
  | setVar (path : String) (v : Json)
  | replaceVars (v : Json)
  | setPayload (v : Json)
  | recordOutput (id : String) (v : Json)
  | pushContext (f : Fragment)
  | converse (t : Turn)
  | forget
  | resolve (id : String)
  | resolveInput (id port : String)
  deriving DecidableEq

namespace Operation

/-- The state afterwards. A variable that cannot be written leaves it as it is. -/
def write (s : RunState) : Operation → RunState
  | .setVar path v =>
    match s.setVar path v with
    | .ok s' => s'
    | .error _ => s
  | .replaceVars v => s.replaceVars v
  | .setPayload v => { s with payload := v }
  | .recordOutput id v => s.recordOutput id v
  | .pushContext f => s.pushContext f
  | .converse t => s.converse t
  | .forget | .resolve _ | .resolveInput _ _ => s

/-- The answer to an operation that reads, and the resolver afterwards. -/
def ask (e : ScriptEngine) (g : Graph) (s : RunState) :
    Operation → StateM Resolver (List (Option Json))
  | .resolve id => fun r => ([(Resolver.value? e g s id r).1], (Resolver.value? e g s id r).2)
  | .resolveInput id port => fun r =>
    ([(Resolver.input? e g s id port r).1], (Resolver.input? e g s id port r).2)
  | .forget => fun r => ([], r.forget)
  | _ => fun r => ([], r)

/-- The answer to an operation that reads, computed anew. -/
def truth (e : ScriptEngine) (g : Graph) (s : RunState) : Operation → List (Option Json)
  | .resolve id => [g.provides? e s [] id]
  | .resolveInput id port => [(g.edgeInto? id port).bind fun edge => g.provides? e s [] edge.source]
  | _ => []

/-- Whether it adds to the conversation or to the context. -/
def isDialogue : Operation → Bool
  | .pushContext _ | .converse _ => true
  | _ => false

variable {e : ScriptEngine} {g : Graph} {seen : RunState → Prop} {s : RunState} {r : Resolver}

/-- What a write to a variable does: nothing, or it advances the generation. -/
theorem write_setVar (path : String) (v : Json) (s : RunState) :
    write s (.setVar path v) = s ∨
      ∃ vars, write s (.setVar path v) = { s with vars, generation := s.generation + 1 } := by
  cases hp : s.vars.setPath path v with
  | ok vars => exact Or.inr ⟨vars, by simp only [write, RunState.setVar, hp, Except.map]⟩
  | error f => exact Or.inl (by simp only [write, RunState.setVar, hp, Except.map])

/-- An operation that is no part of the dialogue leaves the dialogue as it is. -/
theorem write_dialogue {op : Operation} (h : op.isDialogue = false) (s : RunState) :
    (op.write s).conversation = s.conversation ∧ (op.write s).context = s.context := by
  cases op with
  | pushContext f => cases h
  | converse t => cases h
  | setVar path v =>
    rcases write_setVar path v s with hw | ⟨vars, hw⟩
    · rw [hw]
      exact ⟨rfl, rfl⟩
    · rw [hw]
      exact ⟨rfl, rfl⟩
  | _ => exact ⟨rfl, rfl⟩

/-- **What one operation keeps**: a memory that is sound for the state is sound for the state after
the operation. -/
theorem ask_sound (h : r.Sound e seen s) (hs : seen s) (op : Operation) :
    (op.ask e g s r).2.Sound e seen (op.write s) := by
  cases op with
  | setVar path v =>
    rcases write_setVar path v s with hw | ⟨vars, hw⟩
    · rw [hw]
      exact h
    · rw [hw]
      exact h.of_newer (Nat.lt_succ_self s.generation)
  | replaceVars v => exact h.of_newer (Nat.lt_succ_self s.generation)
  | forget => exact .of_empty rfl
  | resolve id => exact h.value? hs id
  | resolveInput id port => exact h.input? hs id port
  | _ => exact h.of_sameVars rfl rfl

/-- A resolver that has seen the dialogue of the state only answers with the truth. -/
theorem ask_eq_truth (h : r.Sound e seen s) (hs : seen s)
    (hseen : ∀ t, seen t → t.conversation = s.conversation ∧ t.context = s.context)
    (op : Operation) : (op.ask e g s r).1 = op.truth e g s := by
  cases op with
  | resolve id => exact congrArg (fun v => [v]) (h.value?_eq_of_dialogue hs hseen id)
  | resolveInput id port =>
    simp only [ask, truth, Resolver.input?]
    cases g.edgeInto? id port with
    | none => rfl
    | some edge => exact congrArg (fun v => [v]) (h.value?_eq_of_dialogue hs hseen edge.source)
  | _ => rfl

end Operation

/-! ## 2. Answers -/

/-- The answers that one resolver gives to a sequence of operations. -/
def answers (e : ScriptEngine) (g : Graph) :
    List Operation → RunState → Resolver → List (Option Json)
  | [], _, _ => []
  | op :: ops, s, r => (op.ask e g s r).1 ++ answers e g ops (op.write s) (op.ask e g s r).2

/-- The answers to a sequence of operations when every one is put to a fresh resolver. -/
def freshAnswers (e : ScriptEngine) (g : Graph) : List Operation → RunState → List (Option Json)
  | [], _ => []
  | op :: ops, s => (op.ask e g s {}).1 ++ freshAnswers e g ops (op.write s)

/-- The answers to a sequence of operations, computed without a resolver. -/
def truths (e : ScriptEngine) (g : Graph) : List Operation → RunState → List (Option Json)
  | [], _ => []
  | op :: ops, s => op.truth e g s ++ truths e g ops (op.write s)

theorem freshAnswers_eq_truths (e : ScriptEngine) (g : Graph) : ∀ (ops : List Operation)
    (s : RunState), freshAnswers e g ops s = truths e g ops s := by
  intro ops
  induction ops with
  | nil => exact fun _ => rfl
  | cons op ops ih =>
    intro s
    have hfresh : Resolver.Sound e (· = s) s {} := .of_empty rfl
    have hop := Operation.ask_eq_truth (g := g) hfresh rfl (fun t ht => ht ▸ ⟨rfl, rfl⟩) op
    simp only [freshAnswers, truths, hop, ih]

/-- A sound resolver answers with the truth as long as the dialogue stays as it is. -/
theorem answers_eq_truths (e : ScriptEngine) (g : Graph) {conversation : List Turn}
    {context : List Fragment} : ∀ (ops : List Operation) (s : RunState) (r : Resolver),
    (∀ op ∈ ops, op.isDialogue = false) →
    s.conversation = conversation ∧ s.context = context →
    r.Sound e (fun t => t.conversation = conversation ∧ t.context = context) s →
    answers e g ops s r = truths e g ops s := by
  intro ops
  induction ops with
  | nil => exact fun _ _ _ _ _ => rfl
  | cons op ops ih =>
    intro s r hops hs h
    have hseen : ∀ t : RunState, t.conversation = conversation ∧ t.context = context →
        t.conversation = s.conversation ∧ t.context = s.context := by
      intro t ht
      rwa [hs.1, hs.2]
    have hkeep := op.write_dialogue (hops op List.mem_cons_self) s
    have hnext : (op.write s).conversation = conversation ∧ (op.write s).context = context := by
      rwa [hkeep.1, hkeep.2]
    have hrest := ih (op.write s) (op.ask e g s r).2
      (fun op' h' => hops op' (List.mem_cons_of_mem _ h')) hnext (op.ask_sound h hs)
    simp only [answers, truths, op.ask_eq_truth h hs hseen, hrest]

/-- **Memory does not show.** For every graph, every engine and every sequence of operations that
leaves the dialogue as it is, one resolver answers every read as a fresh one would at that moment,
and as the nodes' values are without any memory. -/
theorem answers_eq_freshAnswers (e : ScriptEngine) (g : Graph) (ops : List Operation) (s : RunState)
    (h : ∀ op ∈ ops, op.isDialogue = false) :
    answers e g ops s {} = freshAnswers e g ops s ∧ answers e g ops s {} = truths e g ops s := by
  have htruth := answers_eq_truths e g ops s {} h ⟨rfl, rfl⟩ (.of_empty rfl)
  exact ⟨htruth.trans (freshAnswers_eq_truths e g ops s).symm, htruth⟩

/-- An engine whose scripts all give their source, the variable `x` and their input. -/
def teller : ScriptEngine where
  expression source view :=
    { value := .array [.string source, (view.vars.member? "x").getD .null, view.input] }
  body source view _ :=
    { value := .array [.string source, (view.vars.member? "x").getD .null, view.input] }

/-- Two transforms that read one another, so that it matters where reading begins, and one that
reads the payload. -/
def mutualReaders : Graph :=
  let reader (id : String) : Node := ⟨id, .transform, ⟨id, "", false, .transform { source := id }⟩⟩
  { nodes := [reader "a", reader "b", reader "c"]
    edges := [{ id := "1", source := "a", target := "b" },
      { id := "2", source := "b", target := "a" }] }

/-- What is read before and after the variable and the payload are written, some of it twice. -/
def rereading : List Operation :=
  [.setVar "x" (.string "old"), .resolve "a", .resolve "a", .resolve "c",
    .setVar "x" (.string "new"), .resolve "a", .resolve "b", .resolveInput "b" PortId.input,
    .setPayload (.bool true), .resolve "c"]

/-- Where `a` is read again both values are remembered, and none after the variable is written. -/
theorem mutualReaders_answers_eq :
    let s : RunState := { payload := .bool false }
    let given (id x : String) (input : Json) : Json := .array [.string id, .string x, input]
    let reads := Resolver.value? teller mutualReaders s "a"
    (∀ op ∈ rereading, op.isDialogue = false) ∧ (reads (reads {}).2).2.hits = 2 ∧
    answers teller mutualReaders rereading s {} = [
      some (given "a" "old" (given "b" "old" .null)),
      some (given "a" "old" (given "b" "old" .null)), some (given "c" "old" (.bool false)),
      some (given "a" "new" (given "b" "new" .null)),
      some (given "b" "new" (given "a" "new" .null)),
      some (given "a" "new" (given "b" "new" .null)), some (given "c" "new" (.bool true))] ∧
    answers teller mutualReaders rereading s {} = freshAnswers teller mutualReaders rereading s :=
  ⟨by decide, by decide +kernel, by decide +kernel,
    (answers_eq_freshAnswers teller mutualReaders rereading _ (by decide)).1⟩

end Workgraph
