import Workgraph.Proofs.Calls
import Workgraph.Proofs.Rounds

/-!
# Searches of a knowledge store

A call of a retrieval tool searches the store for some of the texts that the model gives, and puts
what is found into the context. The model gives whatever it likes; this file says what becomes of
it.

* `Tools.givenTexts` are the texts among the arguments, `RetrievalBody.leading` the ones that are
  searched for: the first ones that are not blank, as many as the tool advertises
  (`RetrievalBody.advertised?`).
* `RunState.pushAll_eq` says where fragments of one priority go in a context that is in
  order.
* `Passage.PutAs` says what a passage becomes in the context, `Passage.ListedAs` what the model is
  told of it.
* `SearchCall` has a rule for each way in which a call can go, with all that the host is asked.
  `SearchesInBounds` is what follows; `callTool_searchesInBounds` says so of every call.
-/

namespace Workgraph

open Exec Tools

variable {σ : Type}

/-! ## 1. Queries -/

/-- The texts that the model gives as queries: those in a list, or a single one. -/
def Tools.givenTexts (args : Json) : List String :=
  match args.member? "queries" with
  | some (.array items) => items.filterMap Json.asString?
  | some (.string text) => [text]
  | _ => []

namespace RetrievalBody

/-- The texts that are searched for: the first ones that are not blank, without the blanks around
them. -/
def leading (b : RetrievalBody) (args : Json) : List String :=
  (((givenTexts args).filter fun text => !Text.isAllBlank text).take (max 1 b.maxQueries)).map
    Text.trim

/-- The most queries of one call, as the tool advertises them to the model. -/
def advertised? (b : RetrievalBody) : Option Json :=
  ((b.tool.parameters.member? "properties").bind (·.member? "queries")).bind (·.member? "maxItems")

theorem advertised?_eq (b : RetrievalBody) :
    b.advertised? = some (.ofNat (max 1 b.maxQueries)) := by
  unfold advertised? tool schema queryBound
  simp [Json.ofMembers, Keyed.ofList, Json.member?, Keyed.get?_set, Nat.max_comm]

theorem isEmpty_trim (text : String) : (Text.trim text).isEmpty = Text.isAllBlank text := by
  have htrim := Json.trim_eq_empty_iff text.toList
  rw [String.ofList_toList] at htrim
  rw [Bool.eq_iff_iff, String.isEmpty_iff, htrim]
  rfl

theorem queries_eq_leading (b : RetrievalBody) (args : Json) : b.queries args = b.leading args := by
  have hqueries : b.queries args =
    (((givenTexts args).map Text.trim).filter fun text => !text.isEmpty).take b.queryBound := rfl
  have hbound : b.queryBound = max 1 b.maxQueries := Nat.max_comm ..
  unfold leading
  rw [hqueries, List.filter_map, ← List.map_take, hbound]
  simp only [Function.comp_def, isEmpty_trim]

variable {b : RetrievalBody} {args : Json}

theorem length_leading_le (b : RetrievalBody) (args : Json) :
    (b.leading args).length ≤ max 1 b.maxQueries := by
  unfold leading
  rw [List.length_map]
  exact List.length_take_le ..

/-- There is something to search for unless all texts are blank. -/
theorem leading_eq_nil_iff :
    b.leading args = [] ↔ ∀ text ∈ givenTexts args, Text.isAllBlank text = true := by
  have hbound : max 1 b.maxQueries ≠ 0 := by omega
  unfold leading
  rw [List.map_eq_nil_iff, List.take_eq_nil_iff, or_iff_right hbound, List.filter_eq_nil_iff]
  simp only [Bool.not_eq_true', Bool.not_eq_false]

end RetrievalBody

/-! ## 2. Fragments of one priority -/

namespace Fragment

/-- The fragments of the same or a higher priority. -/
def ahead (p : Int) (l : List Fragment) : List Fragment := l.filter fun f => p ≤ f.priority

/-- The fragments of a lower priority. -/
def behind (p : Int) (l : List Fragment) : List Fragment := l.filter fun f => f.priority < p

/-- The fragments stand in descending priority. -/
def InOrder (l : List Fragment) : Prop := l.Pairwise fun f g => f.before g = true

variable {p : Int} {g : Fragment} {l : List Fragment}

theorem cons_of_le (h : p ≤ g.priority) :
    ahead p (g :: l) = g :: ahead p l ∧ behind p (g :: l) = behind p l :=
  ⟨List.filter_cons_of_pos (decide_eq_true h),
    List.filter_cons_of_neg fun hlt => absurd (of_decide_eq_true hlt) (Int.not_lt.mpr h)⟩

/-- When the first fragment does not reach a priority, none does. -/
theorem InOrder.of_head_lt (h : InOrder (g :: l)) (hlt : g.priority < p) :
    ahead p (g :: l) = [] ∧ behind p (g :: l) = g :: l := by
  have hall : ∀ k ∈ g :: l, k.priority < p := by
    intro k hk
    rcases List.mem_cons.mp hk with rfl | hk
    · exact hlt
    · exact Int.lt_of_le_of_lt (before_iff.mp ((List.pairwise_cons.mp h).1 k hk)) hlt
  constructor
  · exact List.filter_eq_nil_iff.mpr fun k hk hle =>
      absurd (of_decide_eq_true hle) (Int.not_le.mpr (hall k hk))
  · exact List.filter_eq_self.mpr fun k hk => decide_eq_true (hall k hk)

/-- A context in order falls into two parts at every priority. -/
theorem InOrder.ahead_append_behind (h : InOrder l) (p : Int) : ahead p l ++ behind p l = l := by
  induction l with
  | nil => rfl
  | cons g gs ih =>
    by_cases hlt : g.priority < p
    · obtain ⟨hahead, hbehind⟩ := h.of_head_lt hlt
      rw [hahead, hbehind, List.nil_append]
    · obtain ⟨hahead, hbehind⟩ := cons_of_le (l := gs) (Int.not_lt.mp hlt)
      rw [hahead, hbehind, List.cons_append, ih (List.pairwise_cons.mp h).2]

/-- A fragment is put behind all of the same or a higher priority. -/
theorem InOrder.parts_insert (h : InOrder l) (f : Fragment) :
    ahead f.priority (f.insert l) = ahead f.priority l ++ [f] ∧
      behind f.priority (f.insert l) = behind f.priority l := by
  induction l with
  | nil => exact cons_of_le (Int.le_refl _)
  | cons g gs ih =>
    unfold insert
    split
    · next hlt =>
      obtain ⟨hahead, hbehind⟩ := cons_of_le (g := f) (l := g :: gs) (Int.le_refl _)
      rw [hahead, hbehind, (h.of_head_lt hlt).1]
      exact ⟨rfl, rfl⟩
    · next hlt =>
      have hle := Int.not_lt.mp hlt
      obtain ⟨hahead, hbehind⟩ := ih (List.pairwise_cons.mp h).2
      rw [(cons_of_le hle).1, (cons_of_le hle).2, (cons_of_le hle).1, (cons_of_le hle).2, hahead,
        hbehind]
      exact ⟨rfl, rfl⟩

end Fragment

/-- **Fragments of one priority** are put into a context in order as they stand, behind all of the
same or a higher priority. -/
theorem RunState.pushAll_eq {fs : List Fragment} {p : Int} (hfs : ∀ f ∈ fs, f.priority = p)
    (s : RunState) (h : Fragment.InOrder s.context) : s.pushAll fs =
      { s with context := Fragment.ahead p s.context ++ fs ++ Fragment.behind p s.context } := by
  induction fs generalizing s with
  | nil =>
    rw [List.append_nil, h.ahead_append_behind]
    rfl
  | cons f fs ih =>
    obtain ⟨rfl, hfs⟩ := List.forall_mem_cons.mp hfs
    obtain ⟨hahead, hbehind⟩ := h.parts_insert f
    have hrest := ih hfs (s.pushContext f) (f.insert_pairwise h)
    rw [pushContext, hahead, hbehind, ← List.append_cons] at hrest
    exact hrest

/-! ## 3. Passages -/

namespace Passage

/-- **What a passage becomes in the context**: a fragment of the system that is marked as found by
its provider, with its source in brackets before its text. -/
structure PutAs (priority : Int) (nodeId : String) (p : Passage) (f : Fragment) : Prop where
  role : f.role = .system
  titled : ∀ title, p.citation.title = some title →
    f.text = "[" ++ (title ++ " (" ++ p.citation.source ++ ")") ++ "] " ++ p.text
  untitled : p.citation.title = none → f.text = "[" ++ p.citation.source ++ "] " ++ p.text
  priority : f.priority = priority
  sourceNodeId : f.sourceNodeId = some nodeId
  synthesized : f.synthesized = true

theorem putAs_fragment (priority : Int) (nodeId : String) (p : Passage) :
    p.PutAs priority nodeId (p.fragment priority nodeId) where
  role := rfl
  titled title htitle := by
    unfold fragment Citation.heading
    rw [htitle]
  untitled htitle := by
    unfold fragment Citation.heading
    rw [htitle]
  priority := rfl
  sourceNodeId := rfl
  synthesized := rfl

/-- The fragments of some passages, one of each and in order. -/
theorem forall₂_putAs (priority : Int) (nodeId : String) (passages : List Passage) :
    List.Forall₂ (PutAs priority nodeId) passages
      (passages.map (Passage.fragment · priority nodeId)) := by
  rw [List.forall₂_map_right_iff, List.forall₂_same]
  exact fun p _ => p.putAs_fragment priority nodeId

theorem priority_of_putAs {priority : Int} {nodeId : String} {passages : List Passage}
    {fragments : List Fragment}
    (h : List.Forall₂ (PutAs priority nodeId) passages fragments) :
    ∀ f ∈ fragments, f.priority = priority := by
  induction h with
  | nil => exact fun _ hf => absurd hf List.not_mem_nil
  | cons hput _ ih => exact List.forall_mem_cons.mpr ⟨hput.priority, ih⟩

/-- What the model is told of a passage. -/
structure ListedAs (p : Passage) (item : Json) : Prop where
  text : item.member? "text" = some (.string p.text)
  score : item.member? "score" = some (.ofReal p.score)
  source : (item.member? "citation").bind (·.member? "source") = some (.string p.citation.source)

theorem listedAs_encode (p : Passage) : p.ListedAs p.encode := by
  constructor <;>
    simp [encode, Citation.encode, Json.ofMembers, Keyed.ofList, Json.member?, Keyed.get?_set]

/-- The results of a search tell of each passage, in order. -/
theorem exists_results (passages : List Passage) : ∃ items,
    (foundResult passages).member? "results" = some (.array items) ∧
      List.Forall₂ ListedAs passages items := by
  refine ⟨passages.map encode, rfl, ?_⟩
  rw [List.forall₂_map_right_iff, List.forall₂_same]
  exact fun p _ => p.listedAs_encode

end Passage

/-! ## 4. Calls -/

/-- **What becomes of a search** that the model calls for with some arguments, from a session on. -/
inductive SearchCall (c : Frame σ) (nodeId : String) (b : RetrievalBody) (args : Json)
    (s : Session σ) : Except Fault Json → Session (Record σ) → Prop where
  /-- There is nothing to search for. -/
  | unasked (nothing : b.leading args = []) :
      SearchCall c nodeId b args s (.ok (refusal "provide at least one query")) s.watched
  /-- There is no store to search, or the run was cancelled. -/
  | withheld {f : Fault} : SearchCall c nodeId b args s (.error f) s.watched
  /-- The store was searched in vain. -/
  | failed {service : Search → σ → Arrival (List Passage) × σ} {f : Fault}
      (something : b.leading args ≠ []) (supplied : c.host.retrieval = some service) :
      SearchCall c nodeId b args s (.error f) { s.watched with
        world := s.watched.world.note (.searched (b.search (b.leading args)))
          (service (b.search (b.leading args)) s.world).2 }
  /-- Passages were found, and each of them was put into the context. -/
  | found {service : Search → σ → Arrival (List Passage) × σ} {passages : List Passage}
      {fragments : List Fragment}
      (something : b.leading args ≠ []) (supplied : c.host.retrieval = some service)
      (answer : (service (b.search (b.leading args)) s.world).1 = .answered (.ok passages))
      (put : List.Forall₂ (Passage.PutAs c.settings.context.fragmentPriority nodeId)
        passages fragments) :
      SearchCall c nodeId b args s (.ok (foundResult passages)) { s.watched with
        state := s.state.pushAll fragments
        world := s.watched.world.note (.searched (b.search (b.leading args)))
          (service (b.search (b.leading args)) s.world).2 }

namespace Exec

variable (c : Frame σ)

theorem settle_putFound (nodeId : String) (passages : List Passage) (s : Session σ) :
    settle (putFound c nodeId passages) s = (.ok (foundResult passages), { s with
      state := s.state.pushAll
        (passages.map (Passage.fragment · c.settings.context.fragmentPriority nodeId)) }) := by
  unfold RunState.pushAll
  rw [List.foldl_map]
  rfl

theorem search_searchCall (nodeId : String) (b : RetrievalBody) (args : Json) (s : Session σ) :
    SearchCall c nodeId b args s (settle (search c.recorded nodeId b args) s.watched).1
      (settle (search c.recorded nodeId b args) s.watched).2 := by
  have hleading := b.queries_eq_leading args
  by_cases hqueries : b.leading args = []
  · unfold search
    rw [hleading, hqueries]
    exact .unasked hqueries
  · have hservices : c.recorded.host.retrieval =
      c.host.retrieval.map fun service q => Record.noting (.searched q) (service q) := rfl
    cases hretrieve : c.host.retrieval with
    | none =>
      rw [hretrieve] at hservices
      unfold search
      rw [hservices]
      split
      · next hnil => exact absurd (hleading.symm.trans hnil) hqueries
      · exact .withheld
    | some retrieve =>
      rw [hretrieve] at hservices
      rw [search_eq c.recorded nodeId args (hleading.trans_ne hqueries) hservices, hleading]
      rcases settle_checkedAwait_noting (c := c) (.searched (b.search (b.leading args)))
        (retrieve (b.search (b.leading args))) (putFound c.recorded nodeId) s.watched rfl with
        hcancelled | ⟨f, hfailed⟩ | ⟨passages, hanswer, hput⟩
      · rw [hcancelled]
        exact .withheld
      · rw [hfailed]
        exact .failed hqueries hretrieve
      · rw [hput, settle_putFound]
        exact .found hqueries hretrieve hanswer (Passage.forall₂_putAs ..)

/-- A call does the same whether the host keeps a record or not. -/
theorem callTool_mirrors (t : ToolBinding) (args : Json) (s : Session σ) : ∃ x s',
    settle (callTool c.recorded t args) s.watched = (x, s') ∧
      settle (callTool c t args) s = (x, s'.bare) := by
  have hpermits : Permits (Session.Bare c "" s.state.outputs s.watched.world) Tools.Writes :=
    (permits_bare (b := .completion {})).mono fun _ => NodeBody.writes_of_tools c "" {}
  obtain ⟨hresult, hbare, -⟩ := callTool_follows
    (c.accord_recorded "" s.state.outputs s.watched.world) hpermits t args s s.watched
    ⟨rfl, rfl, .refl _⟩
  exact ⟨_, _, rfl, Prod.ext hresult.symm hbare⟩

end Exec

/-! ## 5. Searches within bounds -/

/-- **A search that finds some passages**: what the host was asked, what the model is told, and what
is put into the context. -/
structure SearchFinds (c : Frame σ) (nodeId : String) (b : RetrievalBody) (args : Json)
    (s : Session σ) (x : Except Fault Json) (s' : Session (Record σ)) (passages : List Passage) :
    Prop where
  answered : ∃ service k, c.host.retrieval = some service ∧ s'.world.contacts = [k] ∧
    (service (b.search (b.leading args)) k.before).1 = .answered (.ok passages)
  result : x = .ok (foundResult passages)
  /-- The results tell of each passage, in order. -/
  listed : ∃ items, (foundResult passages).member? "results" = some (.array items) ∧
    List.Forall₂ Passage.ListedAs passages items
  /-- Nothing but the context of the state changes. -/
  keeps : s'.state = { s.state with context := s'.state.context }
  /-- In a context in order, one fragment of each passage, in order, goes behind all fragments of
  the same or a higher priority. -/
  inserted : Fragment.InOrder s.state.context → ∃ fragments,
    List.Forall₂ (Passage.PutAs c.settings.context.fragmentPriority nodeId) passages fragments ∧
    s'.state.context = Fragment.ahead c.settings.context.fragmentPriority s.state.context ++
      fragments ++ Fragment.behind c.settings.context.fragmentPriority s.state.context

/-- **A search keeps the advertised bounds**: what the host is asked in a call of the tool of a
retrieval provider, from a session on, and what becomes of its answer. -/
structure SearchesInBounds (c : Frame σ) (nodeId : String) (b : RetrievalBody) (args : Json)
    (s : Session σ) (x : Except Fault Json) (s' : Session (Record σ)) : Prop where
  /-- The host is asked once at most. -/
  once : s'.world.contacts.length ≤ 1
  /-- It is asked for the leading queries: at least one, and no more than the tool advertises. -/
  asks : ∀ k ∈ s'.world.contacts, ∃ q m, k.deed = .searched q ∧ q.queries = b.leading args ∧
    b.advertised? = some (.ofNat m) ∧ 1 ≤ q.queries.length ∧ q.queries.length ≤ m ∧ 1 ≤ q.topK
  /-- It is not asked for blanks. -/
  quiet : (∀ text ∈ givenTexts args, Text.isAllBlank text = true) → s'.world.contacts = []
  /-- A call that succeeds gives the passages that were found, and puts them into the context. -/
  found : ¬ IsRefused x → ∃ passages, SearchFinds c nodeId b args s x s' passages

theorem SearchCall.inBounds {c : Frame σ} {nodeId : String} {b : RetrievalBody} {args : Json}
    {s : Session σ} {x : Except Fault Json} {s' : Session (Record σ)}
    (h : SearchCall c nodeId b args s x s') : SearchesInBounds c nodeId b args s x s' where
  once := by
    cases h with
    | unasked | withheld => exact Nat.zero_le _
    | failed | found => exact Nat.le_refl _
  asks := by
    have hasked (something : b.leading args ≠ []) : ∃ q m,
        Deed.searched (b.search (b.leading args)) = .searched q ∧ q.queries = b.leading args ∧
          b.advertised? = some (.ofNat m) ∧ 1 ≤ q.queries.length ∧ q.queries.length ≤ m ∧
          1 ≤ q.topK :=
      ⟨_, _, rfl, rfl, b.advertised?_eq, List.length_pos_iff.mpr something,
        b.length_leading_le args, Nat.le_max_right ..⟩
    intro k hk
    cases h with
    | unasked | withheld => cases hk
    | failed something | found something =>
      obtain rfl := List.mem_singleton.mp hk
      exact hasked something
  quiet := by
    intro hblank
    have hnone : b.leading args = [] := RetrievalBody.leading_eq_nil_iff.mpr hblank
    cases h with
    | unasked | withheld => rfl
    | failed something | found something => exact absurd hnone something
  found := by
    intro hsuccess
    cases h with
    | unasked => exact absurd (isRefused_refusal _) hsuccess
    | withheld | failed => exact absurd trivial hsuccess
    | found _ supplied answer put =>
      obtain ⟨context, hpush, -, -⟩ := RunState.pushAll_cases _ s.state
      refine ⟨_, ⟨_, _, supplied, rfl, answer⟩, rfl, Passage.exists_results _, by rw [hpush],
        fun horder => ⟨_, put, ?_⟩⟩
      exact congrArg RunState.context
        (RunState.pushAll_eq (Passage.priority_of_putAs put) s.state horder)

/-- **Every call of a retrieval tool keeps the bounds**, whatever its arguments are. -/
theorem callTool_searchesInBounds (c : Frame σ) (t : ToolBinding) {n : Node} {b : RetrievalBody}
    (hprovider : c.graph.findNode? t.providerId = some n) (hbody : n.data.body = .retrieval b)
    (args : Json) (s : Session σ) : ∃ x s',
    settle (callTool c.recorded t args) s.watched = (x, s') ∧
      settle (callTool c t args) s = (x, s'.bare) ∧ SearchesInBounds c n.id b args s x s' := by
  obtain ⟨x, s', hrecorded, hbare⟩ := callTool_mirrors c t args s
  refine ⟨x, s', hrecorded, hbare, ?_⟩
  have hsearch : callTool c.recorded t args = search c.recorded n.id b args := by
    have hrecorded : c.recorded.graph.findNode? t.providerId = some n := hprovider
    unfold callTool
    rw [hrecorded]
    dsimp only
    rw [hbody]
  have hcall := search_searchCall c n.id b args s
  rw [← hsearch, hrecorded] at hcall
  exact hcall.inBounds

/-- A knowledge store that takes two queries in a call. -/
def archive : Node :=
  ⟨"kb", .retrieval, ⟨"Knowledge", "", false, .retrieval { maxQueries := 2 }⟩⟩

/-- Two of the arguments are no queries, and one query is too many. -/
def looseQueries : Json := .ofMembers
  [("queries", .array [.string " moss ", .ofNat 7, .string " ", .string "fern", .string "peat"])]

/-- There are fragments of a higher and of a lower priority than those of passages. -/
def shelved : Session Rehearsal where
  state := { context := [{ role := .system, text := "Answer briefly.", priority := 500 },
    { role := .system, text := "Cite your sources.", priority := -500 }] }
  world := { store := [.results [{ text := "Moss is green.", score := default
                                   citation := { source := "Field guide" } }]] }

theorem archive_searchesInBounds :
    let c := Graph.rehearsal { nodes := [archive] }
    let t : ToolBinding := ⟨"kb", .retrieval, RetrievalBody.tool { maxQueries := 2 }⟩
    c.graph.findNode? "kb" = some archive ∧ archive.data.body = .retrieval { maxQueries := 2 } ∧
    RetrievalBody.leading { maxQueries := 2 } looseQueries = ["moss", "fern"] ∧
    ∃ v s', settle (callTool c.recorded t looseQueries) shelved.watched = (.ok v, s') ∧
      settle (callTool c t looseQueries) shelved = (.ok v, s'.bare) ∧ ¬ IsRefused (.ok v) ∧
      SearchesInBounds c "kb" { maxQueries := 2 } looseQueries shelved (.ok v) s' := by
  intro c t
  have hprovider : c.graph.findNode? "kb" = some archive := rfl
  have hbody : archive.data.body = .retrieval { maxQueries := 2 } := rfl
  obtain ⟨x, s', hrecorded, hbare, hbounds⟩ :=
    callTool_searchesInBounds c t hprovider hbody looseQueries shelved
  have hresult : (settle (callTool c t looseQueries) shelved).1 = .ok (foundResult
    [{ text := "Moss is green.", score := default, citation := { source := "Field guide" } }]) := by
    decide +kernel
  obtain rfl := (congrArg Prod.fst hbare).symm.trans hresult
  exact ⟨hprovider, hbody, by decide +kernel, _, s', hrecorded, hbare, Bool.false_ne_true, hbounds⟩

end Workgraph
