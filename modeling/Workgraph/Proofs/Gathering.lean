import Workgraph.Proofs.Landing
import Workgraph.Proofs.Reordering
import Workgraph.Proofs.Upstream

/-!
# Which tools are gathered

Collecting the tools of a consumer is one loop that reads gates, watches for a second provider of a
type of which one may serve, and keeps the names that are taken. This file takes it apart.

* `Tools.openProviders` are the providers that nothing turns off, in the order of their edges, as
  their gates are read one after the other. `collectFrom_eq` says that collecting admits these and
  no others.
* `admitAll_free` is about admitting them: it fails at the second retrieval provider and otherwise
  adds all of them, and `gathered_addAll` says what they add up to: of the tools with one name the
  first, and the guidance of the providers of just these tools.
* `SteadyGates` is what makes the gates of a consumer say the same however often they are read. They
  do when what is remembered was computed in the present dialogue (`steadyGates_of_current`), and
  also when no way upstream of a gate comes back to itself (`steadyGates_of_straight`).
* `Tools.Gathers` is the account of one call, and of another one at the same state. `seesaw_wavers`
  shows a graph for which the two calls differ, with two gates on one cycle and a memory from an
  earlier dialogue.
-/

namespace Workgraph

/-! ## 1. The first of each kind -/

section Firsts

variable {α β : Type} [BEq β] [LawfulBEq β] (key : α → β)

/-- Leaving out repeated keys keeps the order. -/
theorem eraseDupsBy_sublist (r : α → α → Bool) : ∀ as : List α, (as.eraseDupsBy r).Sublist as
  | [] => .slnil
  | a :: as => by
    rw [List.eraseDupsBy_cons]
    exact ((eraseDupsBy_sublist r (as.filter _)).trans List.filter_sublist).cons_cons a
termination_by as => as.length
decreasing_by exact Nat.lt_succ_of_le (List.length_filter_le _ _)

/-- No key is left twice. -/
theorem nodup_eraseDupsBy : ∀ as : List α,
    ((as.eraseDupsBy fun a b => key a == key b).map key).Nodup
  | [] => List.nodup_nil
  | a :: as => by
    rw [List.eraseDupsBy_cons, List.map_cons, List.nodup_cons]
    refine ⟨fun hmem => ?_, nodup_eraseDupsBy (as.filter _)⟩
    obtain ⟨b, hb, heq⟩ := List.mem_map.mp hmem
    have hne := of_decide_eq_true (List.mem_filter.mp ((eraseDupsBy_sublist _ _).mem hb)).2
    rw [heq, BEq.rfl] at hne
    cases hne
termination_by as => as.length
decreasing_by exact Nat.lt_succ_of_le (List.length_filter_le _ _)

/-- The first element under a key is left. -/
theorem find?_eraseDupsBy (k : β) : ∀ as : List α,
    (as.eraseDupsBy fun a b => key a == key b).find? (key · == k) = as.find? (key · == k)
  | [] => rfl
  | a :: as => by
    rw [List.eraseDupsBy_cons, List.find?_cons, List.find?_cons]
    cases ha : key a == k with
    | true => rfl
    | false =>
      dsimp only
      rw [find?_eraseDupsBy k (as.filter _), List.find?_filter]
      congr 1
      funext b
      -- an element under the key is not left out for the sake of the head
      cases hb : key b == k with
      | false => simp only [Bool.false_eq_true, and_false, decide_false]
      | true =>
        have hne : (key b == key a) = false := by rw [eq_of_beq hb, BEq.comm, ha]
        simp only [hne, decide_true, and_self]
termination_by as => as.length
decreasing_by exact Nat.lt_succ_of_le (List.length_filter_le _ _)

end Firsts

/-! ## 2. Open providers -/

namespace Tools

variable {e : ScriptEngine} {g : Graph} {s : RunState} {settings : ContextSettings}
  {consumer : String}

/-- The providers at the other ends of some edges that are not muted and that nothing turns off.
Their gates are read in order. -/
def openAlong (e : ScriptEngine) (g : Graph) (s : RunState) :
    List Edge → StateM Resolver (List Node)
  | [] => return []
  | edge :: edges =>
    match providerOf? g edge with
    | none => openAlong e g s edges
    | some n => do
      let opened ← isOpen e g s n
      let others ← openAlong e g s edges
      return if opened then n :: others else others

/-- The open providers of a consumer, once for each of their edges. -/
def openProviders (e : ScriptEngine) (g : Graph) (s : RunState) (consumer : String) :
    StateM Resolver (List Node) :=
  openAlong e g s (g.providerEdges consumer)

theorem openAlong_of_none {edge : Edge} (h : providerOf? g edge = none) (edges : List Edge)
    (r : Resolver) : openAlong e g s (edge :: edges) r = openAlong e g s edges r := by
  simp only [openAlong, h]

theorem openAlong_cons {edge : Edge} {n : Node} (h : providerOf? g edge = some n)
    (edges : List Edge) (r : Resolver) :
    openAlong e g s (edge :: edges) r =
      (if (isOpen e g s n r).1 then n :: (openAlong e g s edges (isOpen e g s n r).2).1
        else (openAlong e g s edges (isOpen e g s n r).2).1,
        (openAlong e g s edges (isOpen e g s n r).2).2) := by
  simp only [openAlong, h]
  rfl

/-- Open providers are found by their ids. -/
theorem findNode?_of_mem_openAlong : ∀ {edges : List Edge} {r : Resolver} {n : Node},
    n ∈ (openAlong e g s edges r).1 → g.findNode? n.id = some n := by
  intro edges
  induction edges with
  | nil => exact fun hn => absurd hn List.not_mem_nil
  | cons edge edges ih =>
    intro r n hn
    cases hp : providerOf? g edge with
    | none =>
      rw [openAlong_of_none hp] at hn
      exact ih hn
    | some p =>
      rw [openAlong_cons hp] at hn
      dsimp only at hn
      split at hn
      · rcases List.mem_cons.mp hn with rfl | hn
        · have hfind := (Option.filter_eq_some_iff.mp hp).1
          rwa [Graph.findNode?_id hfind]
        · exact ih hn
      · exact ih hn

/-! ## 3. Admitting providers -/

/-- Admits some providers one after the other. -/
def admitAll (consumer : String) (settings : ContextSettings) :
    List Node → Collected → Except Fault ToolSet
  | [], c => .ok c.set
  | n :: ns, c =>
    match c.admit consumer n settings with
    | .ok c => admitAll consumer settings ns c
    | .error f => .error f

/-- A set with the tools of some more providers. -/
def addAll (settings : ContextSettings) (ns : List Node) (t : ToolSet) : ToolSet :=
  ns.foldl (fun t n => t.add n settings) t

theorem admitAll_cons_of_ok {n : Node} {c c' : Collected} (h : c.admit consumer n settings = .ok c')
    (ns : List Node) :
    admitAll consumer settings (n :: ns) c = admitAll consumer settings ns c' := by
  simp only [admitAll, h]

theorem admitAll_cons_of_error {n : Node} {c : Collected} {f : Fault}
    (h : c.admit consumer n settings = .error f) (ns : List Node) :
    admitAll consumer settings (n :: ns) c = .error f := by
  simp only [admitAll, h]

/-- **Collecting is admitting the open providers.** -/
theorem collectFrom_eq : ∀ (edges : List Edge) (c : Collected) (r : Resolver),
    (collectFrom e g s settings consumer edges c r).1 =
      admitAll consumer settings (openAlong e g s edges r).1 c := by
  intro edges
  induction edges with
  | nil => exact fun _ _ => rfl
  | cons edge edges ih =>
    intro c r
    cases hp : providerOf? g edge with
    | none =>
      rw [openAlong_of_none hp, ← ih c r]
      simp only [collectFrom, hp]
    | some n =>
      rw [collectFrom_cons hp, openAlong_cons hp]
      dsimp only
      split
      · cases hadmit : c.admit consumer n settings with
        | ok c' => rw [admitAll_cons_of_ok hadmit, ← ih c']
        | error f => rw [admitAll_cons_of_error hadmit]
      · exact ih c _

theorem single_iff (t : NodeType) : (definitionOf t).singlePerConsumer = true ↔ t = .retrieval := by
  cases t <;> decide

section

variable {n : Node} {c : Collected}

theorem admit_plain (h : n.type ≠ .retrieval) :
    c.admit consumer n settings = .ok { c with set := c.set.add n settings } :=
  if_neg (mt (single_iff n.type).mp h)

theorem admit_first (h : n.type = .retrieval) (hc : c.singles = []) :
    c.admit consumer n settings =
      .ok { set := c.set.add n settings, singles := [(.retrieval, n.id)] } := by
  unfold Collected.admit
  rw [if_pos ((single_iff n.type).mpr h), hc, h]
  rfl

theorem admit_second {first : String} (h : n.type = .retrieval)
    (hc : c.singles = [(.retrieval, first)]) :
    c.admit consumer n settings = .error (secondProvider consumer .retrieval first n.id) := by
  unfold Collected.admit
  rw [if_pos ((single_iff n.type).mpr h), hc, h]
  rfl

end

/-- The retrieval providers among some nodes. -/
def retrievals (ns : List Node) : List Node := ns.filter fun n => n.type = .retrieval

theorem retrievals_cons {n : Node} (h : n.type = .retrieval) (ns : List Node) :
    retrievals (n :: ns) = n :: retrievals ns :=
  List.filter_cons_of_pos (decide_eq_true h)

theorem retrievals_cons_of_ne {n : Node} (h : n.type ≠ .retrieval) (ns : List Node) :
    retrievals (n :: ns) = retrievals ns :=
  List.filter_cons_of_neg fun hn => h (of_decide_eq_true hn)

/-- With one retrieval provider there must be no other one. -/
theorem admitAll_taken {first : String} : ∀ (ns : List Node) (c : Collected),
    c.singles = [(.retrieval, first)] → admitAll consumer settings ns c =
      match retrievals ns with
      | [] => .ok (addAll settings ns c.set)
      | second :: _ => .error (secondProvider consumer .retrieval first second.id) := by
  intro ns
  induction ns with
  | nil => exact fun _ _ => rfl
  | cons n ns ih =>
    intro c hc
    by_cases hn : n.type = .retrieval
    · rw [admitAll_cons_of_error (admit_second hn hc), retrievals_cons hn]
    · rw [admitAll_cons_of_ok (admit_plain hn), retrievals_cons_of_ne hn]
      exact ih _ hc

/-- **Admitting providers** fails at the second one for retrieval and adds all of them otherwise. -/
theorem admitAll_free : ∀ (ns : List Node) (c : Collected), c.singles = [] →
    admitAll consumer settings ns c =
      match retrievals ns with
      | first :: second :: _ => .error (secondProvider consumer .retrieval first.id second.id)
      | _ => .ok (addAll settings ns c.set) := by
  intro ns
  induction ns with
  | nil => exact fun _ _ => rfl
  | cons n ns ih =>
    intro c hc
    by_cases hn : n.type = .retrieval
    · rw [admitAll_cons_of_ok (admit_first hn hc), retrievals_cons hn, admitAll_taken ns _ rfl]
      cases retrievals ns <;> rfl
    · rw [admitAll_cons_of_ok (admit_plain hn), retrievals_cons_of_ne hn]
      exact ih _ hc

end Tools

/-! ## 4. What providers add up to -/

/-- The name under which the model calls a tool. -/
def ToolBinding.name (b : ToolBinding) : String := b.definition.name

/-- The tool of a node, bound to it. -/
def Node.binding? (n : Node) : Option ToolBinding :=
  n.tool?.map fun definition => { providerId := n.id, providerType := n.type, definition }

/-- The guidance of the provider of a tool. -/
def ToolBinding.guidance? (b : ToolBinding) (g : Graph) (settings : ContextSettings) :
    Option Fragment :=
  (g.findNode? b.providerId).bind (·.guidance? settings)

/-- **A set of tools gathered from providers**, of which one may occur several times. -/
structure ToolSet.Gathered (t : ToolSet) (g : Graph) (settings : ContextSettings) (ns : List Node) :
    Prop where
  /-- Of the tools with one name the first counts. -/
  tools : t.tools =
    (ns.filterMap Node.binding?).eraseDupsBy fun a b => a.name == b.name
  distinct : (t.definitions.map (·.name)).Nodup
  first : ∀ name, t.find? name =
    (ns.filterMap Node.binding?).find? fun b => b.name = name
  /-- The guidance is that of the providers whose tools count. -/
  context : t.context = t.tools.filterMap (·.guidance? g settings)

namespace ToolSet

variable {g : Graph} {settings : ContextSettings} {t : ToolSet} {n : Node} {b : ToolBinding}

theorem find?_eq (t : ToolSet) (name : String) :
    t.find? name = t.tools.find? fun b => b.name == name :=
  rfl

theorem add_of_none (h : n.binding? = none) : t.add n settings = t := by
  unfold add
  rw [Option.map_eq_none_iff.mp h]

/-- A tool is added with the guidance of its provider unless its name is taken. -/
theorem add_of_some (h : n.binding? = some b) : t.add n settings =
    if (t.find? b.name).isNone then
      { tools := t.tools ++ [b], context := t.context ++ (n.guidance? settings).toList }
    else t := by
  obtain ⟨definition, htool, rfl⟩ := Option.map_eq_some_iff.mp h
  have hname : (ToolBinding.mk n.id n.type definition).name = definition.name := rfl
  unfold add
  rw [htool, hname]
  show (if (t.find? definition.name).isSome then t else _) = _
  cases t.find? definition.name <;> rfl

theorem add_of_taken (h : n.binding? = some b) (htaken : (t.find? b.name).isNone = false) :
    t.add n settings = t := by
  rw [add_of_some h, htaken]
  rfl

theorem add_of_new (h : n.binding? = some b) (hnew : (t.find? b.name).isNone = true) :
    t.add n settings =
      { tools := t.tools ++ [b], context := t.context ++ (n.guidance? settings).toList } := by
  rw [add_of_some h, if_pos hnew]

/-- After a tool was added its name is taken. -/
theorem isNone_find?_add (h : n.binding? = some b)
    (hnew : (t.find? b.name).isNone = true) (name : String) :
    ((t.add n settings).find? name).isNone =
      (decide ((name == b.name) = false) && (t.find? name).isNone) := by
  rw [add_of_new h hnew]
  rw [find?_eq, find?_eq, List.find?_append, Option.isNone_or, Bool.and_comm, List.find?_singleton,
    BEq.comm]
  cases name == b.name <;> rfl

/-- **What some more providers add**: of the tools whose names are not taken the first of each
name. -/
theorem tools_addAll : ∀ (ns : List Node) (t : ToolSet), (Tools.addAll settings ns t).tools =
    t.tools ++ ((ns.filterMap Node.binding?).filter fun b =>
      (t.find? b.name).isNone).eraseDupsBy
        fun a b => a.name == b.name := by
  intro ns
  induction ns with
  | nil => exact fun t => (List.append_nil _).symm
  | cons n ns ih =>
    intro t
    have hstep : Tools.addAll settings (n :: ns) t = Tools.addAll settings ns (t.add n settings) :=
      rfl
    rw [hstep, ih]
    cases hb : n.binding? with
    | none => rw [add_of_none hb, List.filterMap_cons_none hb]
    | some b =>
      rw [List.filterMap_cons_some hb]
      cases hnew : (t.find? b.name).isNone with
      | false => rw [add_of_taken hb hnew, List.filter_cons_of_neg (by simp [hnew])]
      | true =>
        have htools : (t.add n settings).tools = t.tools ++ [b] := by rw [add_of_new hb hnew]
        rw [List.filter_cons_of_pos (by exact hnew), List.eraseDupsBy_cons, List.filter_filter,
          htools, List.append_assoc, List.singleton_append]
        simp only [isNone_find?_add hb hnew]

/-- The guidance of a set stays that of its tools' providers. -/
theorem context_addAll : ∀ (ns : List Node) (t : ToolSet), (∀ n ∈ ns, g.findNode? n.id = some n) →
    t.context = t.tools.filterMap (·.guidance? g settings) →
    (Tools.addAll settings ns t).context =
      (Tools.addAll settings ns t).tools.filterMap (·.guidance? g settings) := by
  intro ns
  induction ns with
  | nil => exact fun _ _ h => h
  | cons n ns ih =>
    intro t hfound h
    refine ih (t.add n settings) (fun m hm => hfound m (List.mem_cons_of_mem _ hm)) ?_
    cases hb : n.binding? with
    | none => rwa [add_of_none hb]
    | some b =>
      cases hnew : (t.find? b.name).isNone with
      | false => rwa [add_of_taken hb hnew]
      | true =>
        have hguidance : b.guidance? g settings = n.guidance? settings := by
          obtain ⟨definition, -, rfl⟩ := Option.map_eq_some_iff.mp hb
          unfold ToolBinding.guidance?
          rw [hfound n List.mem_cons_self, Option.bind_some]
        rw [add_of_new hb hnew, List.filterMap_append, ← h]
        simp only [List.filterMap_cons, List.filterMap_nil, hguidance]
        cases n.guidance? settings <;> rfl

/-- **What providers add up to.** -/
theorem gathered_addAll {ns : List Node} (hfound : ∀ n ∈ ns, g.findNode? n.id = some n) :
    (Tools.addAll settings ns {}).Gathered g settings ns := by
  have htools : (Tools.addAll settings ns {}).tools =
      (ns.filterMap Node.binding?).eraseDupsBy
        fun a b => a.name == b.name := by
    have hall : (ns.filterMap Node.binding?).filter
        (fun b => (({} : ToolSet).find? b.name).isNone) = ns.filterMap Node.binding? :=
      List.filter_eq_self.mpr fun _ _ => rfl
    rw [tools_addAll, hall]
    rfl
  refine ⟨htools, ?_, fun name => ?_, context_addAll ns {} hfound rfl⟩
  · unfold definitions
    rw [htools, List.map_map]
    exact nodup_eraseDupsBy ToolBinding.name _
  · rw [find?_eq, htools]
    exact find?_eraseDupsBy ToolBinding.name name _

end ToolSet

/-! ## 5. Gates -/

/-- Everything remembered of the present variables was computed in the present dialogue. -/
def Resolver.Current (e : ScriptEngine) (s : RunState) (r : Resolver) : Prop :=
  r.Sound e (fun t => t.conversation = s.conversation ∧ t.context = s.context) s

theorem Resolver.current_of_empty {e : ScriptEngine} {s : RunState} {r : Resolver}
    (h : r.memos = []) : r.Current e s :=
  .of_empty h

namespace Tools

variable {e : ScriptEngine} {g : Graph} {s : RunState} {settings : ContextSettings}
  {consumer : String} {r r' : Resolver} {edges : List Edge}

/-- The providers at the other ends of some edges that are not muted. -/
def providersAlong (g : Graph) (edges : List Edge) : List Node := edges.filterMap (providerOf? g)

/-- Whether nothing turns a provider off, its gate being computed anew. -/
def isOpenAnew (e : ScriptEngine) (g : Graph) (s : RunState) (n : Node) : Bool :=
  match g.edgeInto? n.id PortId.enable with
  | some gate => (g.provides? e s [] gate.source).any isEnabled
  | none => true

theorem isOpen_gated {n : Node} {gate : Edge} (h : g.edgeInto? n.id PortId.enable = some gate) :
    isOpen e g s n r = ((Resolver.value? e g s gate.source r).1.any isEnabled,
      (Resolver.value? e g s gate.source r).2) := by
  unfold isOpen Graph.isWired Resolver.input?
  rw [h]
  rfl

theorem isOpen_ungated {n : Node} (h : g.edgeInto? n.id PortId.enable = none) :
    isOpen e g s n r = (true, r) := by
  unfold isOpen Graph.isWired
  rw [h]
  rfl

/-- **Gates that stay as they are.** With a memory of some kind the gates of some providers say what
`opens` says, and reading them leaves a memory of this kind. -/
structure SteadyGates (e : ScriptEngine) (g : Graph) (s : RunState) (edges : List Edge)
    (opens : Node → Bool) (kind : Resolver → Prop) : Prop where
  verdict : ∀ n ∈ providersAlong g edges, ∀ r, kind r → (isOpen e g s n r).1 = opens n
  keeps : ∀ n ∈ providersAlong g edges, ∀ r, kind r → kind (isOpen e g s n r).2

namespace SteadyGates

variable {opens : Node → Bool} {kind : Resolver → Prop} {edge : Edge} {n : Node}

theorem tail (h : SteadyGates e g s (edge :: edges) opens kind) :
    SteadyGates e g s edges opens kind := by
  have hmem {n : Node} (hn : n ∈ providersAlong g edges) : n ∈ providersAlong g (edge :: edges) :=
    ((List.sublist_cons_self edge edges).filterMap _).mem hn
  exact ⟨fun n hn => h.verdict n (hmem hn), fun n hn => h.keeps n (hmem hn)⟩

theorem head_mem (h : providerOf? g edge = some n) : n ∈ providersAlong g (edge :: edges) :=
  List.mem_filterMap.mpr ⟨edge, List.mem_cons_self, h⟩

/-- Each gate can be read on its own. -/
theorem openAlong_eq (h : SteadyGates e g s edges opens kind) (hr : kind r) :
    (openAlong e g s edges r).1 = (providersAlong g edges).filter opens := by
  induction edges generalizing r with
  | nil => rfl
  | cons edge edges ih =>
    cases hp : providerOf? g edge with
    | none =>
      rw [openAlong_of_none hp, ih h.tail hr]
      unfold providersAlong
      rw [List.filterMap_cons_none hp]
    | some n =>
      have hn : n ∈ providersAlong g (edge :: edges) := head_mem hp
      rw [openAlong_cons hp, h.verdict n hn r hr, ih h.tail (h.keeps n hn r hr)]
      unfold providersAlong
      rw [List.filterMap_cons_some hp, List.filter_cons]

/-- Collecting leaves a memory of the kind that it began with. -/
theorem collectFrom_keeps (h : SteadyGates e g s edges opens kind) (c : Collected) (hr : kind r) :
    kind (collectFrom e g s settings consumer edges c r).2 := by
  induction edges generalizing c r with
  | nil => exact hr
  | cons edge edges ih =>
    cases hp : providerOf? g edge with
    | none =>
      simp only [collectFrom, hp]
      exact ih h.tail c hr
    | some n =>
      have hkept := h.keeps n (head_mem hp) r hr
      rw [collectFrom_cons hp]
      split
      · split
        · exact ih h.tail _ hkept
        · exact hkept
      · exact ih h.tail c hkept

/-- **Collecting twice** along the same edges gives the same. -/
theorem collectFrom_again (h : SteadyGates e g s edges opens kind) (hr : kind r) :
    (collectFrom e g s settings consumer edges {}
        (collectFrom e g s settings consumer edges {} r).2).1 =
      (collectFrom e g s settings consumer edges {} r).1 := by
  rw [collectFrom_eq, collectFrom_eq, h.openAlong_eq hr, h.openAlong_eq (h.collectFrom_keeps {} hr)]

end SteadyGates

/-- In one dialogue a gate says what is computed anew. -/
theorem steadyGates_of_current (e : ScriptEngine) (g : Graph) (s : RunState) (edges : List Edge) :
    SteadyGates e g s edges (isOpenAnew e g s) (Resolver.Current e s) := by
  constructor
  · intro n _ r hr
    unfold isOpenAnew
    cases hgate : g.edgeInto? n.id PortId.enable with
    | none => rw [isOpen_ungated hgate]
    | some gate =>
      rw [isOpen_gated hgate]
      exact congrArg (·.any isEnabled)
        (hr.value?_eq_of_dialogue ⟨rfl, rfl⟩ (fun _ ht => ht) gate.source)
  · intro n _ r hr
    cases hgate : g.edgeInto? n.id PortId.enable with
    | none => rwa [isOpen_ungated hgate]
    | some gate =>
      rw [isOpen_gated hgate]
      exact hr.value? ⟨rfl, rfl⟩ gate.source

/-- No way upstream of a gate comes back to itself. -/
def StraightGates (g : Graph) (edges : List Edge) : Prop :=
  ∀ n ∈ providersAlong g edges, ∀ gate, g.edgeInto? n.id PortId.enable = some gate →
    g.Straight gate.source

/-- Gates without cycles say what they would have said at first, whatever is remembered. -/
theorem steadyGates_of_straight (h : StraightGates g edges) (r : Resolver) :
    SteadyGates e g s edges (fun n => (isOpen e g s n r).1) (Resolver.AnswersAlike e g s r) := by
  constructor
  · intro n hn r' hr'
    cases hgate : g.edgeInto? n.id PortId.enable with
    | none => rw [isOpen_ungated hgate, isOpen_ungated hgate]
    | some gate =>
      rw [isOpen_gated hgate, isOpen_gated hgate]
      exact congrArg (·.any isEnabled) (hr' gate.source (h n hn gate hgate))
  · intro n hn r' hr'
    cases hgate : g.edgeInto? n.id PortId.enable with
    | none => rwa [isOpen_ungated hgate]
    | some gate =>
      rw [isOpen_gated hgate]
      exact hr'.trans (Resolver.value?_answersAlike (h n hn gate hgate))

/-! ## 6. The tools of a consumer -/

/-- **What collecting the tools of a consumer gives**, with a memory `r` at a state. -/
structure Gathers (e : ScriptEngine) (g : Graph) (s : RunState) (settings : ContextSettings)
    (consumer : String) (r : Resolver) : Prop where
  /-- The edges that name the tools port of the consumer are gone through, -/
  along : (g.providerEdges consumer).Perm
    (g.edges.filter fun edge => edge.target = consumer ∧ edge.targetPort = some PortId.tools)
  /-- by the id of their source and then by their own. -/
  ordered : (g.providerEdges consumer).Pairwise fun a b =>
    a.source < b.source ∨ (a.source = b.source ∧ a.id ≤ b.id)
  /-- It fails when there is a second open provider for retrieval, and only then. -/
  fails : (∃ f, (collect e g s settings consumer r).1 = .error f) ↔
    2 ≤ ((openProviders e g s consumer r).1.filter fun n => n.type = .retrieval).length
  /-- Otherwise the tools are those of the open providers. -/
  gathers : ∀ t, (collect e g s settings consumer r).1 = .ok t →
    t.Gathered g settings (openProviders e g s consumer r).1
  /-- In one dialogue the open providers are those whose gates, computed anew, let them through. -/
  present : r.Current e s → (openProviders e g s consumer r).1 =
    (providersAlong g (g.providerEdges consumer)).filter (isOpenAnew e g s)
  /-- When no gate reads itself they are those whose gates, read first, let them through. -/
  apart : StraightGates g (g.providerEdges consumer) → (openProviders e g s consumer r).1 =
    (providersAlong g (g.providerEdges consumer)).filter fun n => (isOpen e g s n r).1
  /-- In both cases another call gives the same, -/
  again : r.Current e s ∨ StraightGates g (g.providerEdges consumer) →
    (collect e g s settings consumer (collect e g s settings consumer r).2).1 =
      (collect e g s settings consumer r).1
  /-- and the first case holds when nothing is remembered. -/
  afresh : r.memos = [] → r.Current e s

/-- Collecting gives what the open providers add up to, unless two of them are for retrieval. -/
theorem collect_cases (e : ScriptEngine) (g : Graph) (s : RunState) (settings : ContextSettings)
    (consumer : String) (r : Resolver) : (collect e g s settings consumer r).1 =
      match retrievals (openProviders e g s consumer r).1 with
      | first :: second :: _ => .error (secondProvider consumer .retrieval first.id second.id)
      | _ => .ok (addAll settings (openProviders e g s consumer r).1 {}) :=
  (collectFrom_eq _ _ _).trans (admitAll_free _ _ rfl)

theorem collect_gathers (e : ScriptEngine) (g : Graph) (s : RunState) (settings : ContextSettings)
    (consumer : String) (r : Resolver) : Gathers e g s settings consumer r := by
  have hcollect := collect_cases e g s settings consumer r
  constructor
  · refine (List.mergeSort_perm _ _).trans (.of_eq ?_)
    unfold Graph.incoming
    simp only [List.filter_filter, ← Bool.decide_and, and_comm]
  · refine (List.pairwise_mergeSort Graph.providerBefore_trans Graph.providerBefore_total _).imp ?_
    exact fun {a b} h => (Graph.providerBefore_iff a b).mp h
  · rw [hcollect]
    show _ ↔ 2 ≤ (retrievals (openProviders e g s consumer r).1).length
    rcases retrievals (openProviders e g s consumer r).1 with _ | ⟨first, _ | ⟨second, others⟩⟩
    · simp
    · simp
    · simp
  · intro t ht
    rw [hcollect] at ht
    have hadded : t = addAll settings (openProviders e g s consumer r).1 {} := by
      split at ht
      · cases ht
      · exact (Except.ok.inj ht).symm
    rw [hadded]
    exact ToolSet.gathered_addAll fun n hn => findNode?_of_mem_openAlong hn
  · exact (steadyGates_of_current e g s _).openAlong_eq
  · exact fun h => (steadyGates_of_straight h r).openAlong_eq fun _ _ => rfl
  · rintro (hcurrent | hstraight)
    · exact (steadyGates_of_current e g s _).collectFrom_again hcurrent
    · exact (steadyGates_of_straight hstraight r).collectFrom_again fun _ _ => rfl
  · exact Resolver.current_of_empty

/-- An engine whose only function asks whether there are context messages; its only expression asks
whether there is an input, and answers with words that both let a provider through. -/
def watcher : ScriptEngine where
  expression _ view := { value := .string (if view.input = .null then "yes" else "on") }
  body _ view _ := { value := .bool (view.contextMessages ≠ .array []) }

/-- Two transforms that read each other, and two providers that they gate. -/
def seesaw : Graph :=
  { nodes := [⟨"ask", .completion, .initial .completion⟩,
      ⟨"news", .transform, ⟨"News", "", false, .transform { mode := .function }⟩⟩,
      ⟨"echo", .transform, ⟨"Echo", "", false, .transform { mode := .expression }⟩⟩,
      ⟨"coin", .randomizer, .initial .randomizer⟩, ⟨"notes", .globalState, .initial .globalState⟩]
    edges := [{ id := "1", source := "echo", target := "news", targetPort := some PortId.input },
      { id := "2", source := "news", target := "echo", targetPort := some PortId.input },
      { id := "3", source := "news", target := "coin", targetPort := some PortId.enable },
      { id := "4", source := "echo", target := "notes", targetPort := some PortId.enable },
      { id := "5", source := "coin", target := "ask", targetPort := some PortId.tools },
      { id := "6", source := "notes", target := "ask", targetPort := some PortId.tools }] }

/-- The coin is asked before the notes. -/
theorem seesaw_providerEdges : seesaw.providerEdges "ask" = seesaw.edges.drop 4 :=
  List.mergeSort_of_pairwise (by decide +kernel)

/-- The coin's gate was read before a context message came. It is first found shut, as remembered;
but the gate of the notes makes it forget, and with the second call it is open. -/
theorem seesaw_wavers :
    let s : RunState := { context := [{ role := .system, text := "news", priority := 0 }] }
    let r := (Resolver.value? watcher seesaw {} "news" {}).2
    let first := collect watcher seesaw s {} "ask" r
    let second := collect watcher seesaw s {} "ask" first.2
    first.1.map (·.tools.map (·.providerId)) = .ok ["notes"] ∧
      second.1.map (·.tools.map (·.providerId)) = .ok ["coin", "notes"] := by
  unfold collect
  rw [seesaw_providerEdges]
  decide +kernel

end Tools

end Workgraph
