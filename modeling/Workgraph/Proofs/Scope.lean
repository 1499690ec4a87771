import Workgraph.Proofs.Paths
import Workgraph.Proofs.Simulation
import Workgraph.Proofs.Trail

/-!
# The scope of a provider of variables

A provider of variables may have a scope: a path that all reads and writes of the model are put
under. The model chooses the rest of the path, and the variables may be of any shape.

* `pieces_scopedPath`: whatever the model writes as a path, the segments of the scope come first.
* `Confined` says what writes under some segments do to all paths that part from them; it holds
  across one write and adds up over many (`Confined.write`, `Confined.trans`).
* `callEach_keepsScope` is about any sequence of calls. A path outside the scope reads what it read
  before, unless it led through an array on a segment that it shares with the scope: a write puts an
  object there. `isolation_fails` is the least such case.
-/

namespace Workgraph

open Json Exec

variable {σ : Type}

/-! ## 1. Cutting texts that are joined or trimmed -/

namespace Json

theorem splitOn_cons_sep (sep : Char) (cs : List Char) :
    splitOn sep (sep :: cs) = [] :: splitOn sep cs := by
  rw [splitOn, if_pos rfl]

theorem splitOn_cons_of_ne {sep c : Char} (h : c ≠ sep) {cs first : List Char}
    {rest : List (List Char)} (hcs : splitOn sep cs = first :: rest) :
    splitOn sep (c :: cs) = (c :: first) :: rest := by
  rw [splitOn, if_neg h, hcs]

theorem exists_splitOn_eq_cons (sep : Char) (cs : List Char) :
    ∃ first rest, splitOn sep cs = first :: rest :=
  List.exists_cons_of_ne_nil (splitOn_ne_nil sep cs)

theorem splitOn_append_sep (sep : Char) (cs ds : List Char) :
    splitOn sep (cs ++ sep :: ds) = splitOn sep cs ++ splitOn sep ds := by
  induction cs with
  | nil => exact splitOn_cons_sep sep ds
  | cons c cs ih =>
    rw [List.cons_append]
    by_cases hc : c = sep
    · rw [hc, splitOn_cons_sep, splitOn_cons_sep, ih, List.cons_append]
    · obtain ⟨first, rest, hcs⟩ := exists_splitOn_eq_cons sep cs
      rw [hcs, List.cons_append] at ih
      rw [splitOn_cons_of_ne hc ih, splitOn_cons_of_ne hc hcs, List.cons_append]

/-- Characters put before a text belong to its first piece. -/
theorem splitOn_append_left {sep : Char} {lead : List Char} (h : sep ∉ lead) {cs first : List Char}
    {rest : List (List Char)} (hcs : splitOn sep cs = first :: rest) :
    splitOn sep (lead ++ cs) = (lead ++ first) :: rest := by
  induction lead with
  | nil => exact hcs
  | cons c lead ih =>
    obtain ⟨hc, hlead⟩ := List.ne_and_not_mem_of_not_mem_cons h
    exact splitOn_cons_of_ne hc.symm (ih hlead)

/-- Characters put after a text belong to its last piece. -/
theorem splitOn_append_right {sep : Char} {trail : List Char} (h : sep ∉ trail) (cs : List Char) :
    ∃ init last, splitOn sep cs = init ++ [last] ∧
      splitOn sep (cs ++ trail) = init ++ [last ++ trail] := by
  induction cs with
  | nil =>
    have htrail := splitOn_append_left h (rfl : splitOn sep [] = [[]])
    rw [List.append_nil] at htrail
    exact ⟨[], [], rfl, htrail⟩
  | cons c cs ih =>
    obtain ⟨init, last, hcs, hall⟩ := ih
    rw [List.cons_append]
    by_cases hc : c = sep
    · rw [hc, splitOn_cons_sep, splitOn_cons_sep, hcs, hall]
      exact ⟨[] :: init, last, rfl, rfl⟩
    · cases init with
      | nil => exact ⟨[], c :: last, splitOn_cons_of_ne hc hcs, splitOn_cons_of_ne hc hall⟩
      | cons piece init =>
        exact ⟨(c :: piece) :: init, last, splitOn_cons_of_ne hc hcs, splitOn_cons_of_ne hc hall⟩

theorem trim_append_left {lead : List Char} (h : ∀ c ∈ lead, Text.isBlank c = true)
    (cs : List Char) :
    Text.trim (String.ofList (lead ++ cs)) = Text.trim (String.ofList cs) := by
  unfold Text.trim Text.dropStart
  rw [String.toList_ofList, String.toList_ofList, List.dropWhile_append_of_pos h]

theorem trim_append_right {trail : List Char} (h : ∀ c ∈ trail, Text.isBlank c = true)
    (cs : List Char) :
    Text.trim (String.ofList (cs ++ trail)) = Text.trim (String.ofList cs) := by
  have hend (ds : List Char) : Text.dropEnd Text.isBlank (ds ++ trail) =
      Text.dropEnd Text.isBlank ds := by
    unfold Text.dropEnd
    rw [List.reverse_append, List.dropWhile_append_of_pos]
    exact fun c hc => h c (List.mem_reverse.mp hc)
  unfold Text.trim Text.dropStart
  rw [String.toList_ofList, String.toList_ofList, List.dropWhile_append]
  split
  · next hnil =>
    -- the text is blank, and so is what follows it
    rw [List.isEmpty_iff.mp hnil, List.dropWhile_eq_nil_iff.mpr h]
  · rw [hend]

theorem dot_not_blank {cs : List Char} (h : ∀ c ∈ cs, Text.isBlank c = true) : '.' ∉ cs :=
  fun hmem => absurd (h '.' hmem) (by decide)

/-- A text between the blanks that are trimmed off it. -/
theorem toList_eq_trim (s : String) :
    ∃ lead trail, s.toList = lead ++ (Text.trim s).toList ++ trail ∧
      (∀ c ∈ lead, Text.isBlank c = true) ∧ ∀ c ∈ trail, Text.isBlank c = true := by
  refine ⟨s.toList.takeWhile Text.isBlank,
    ((s.toList.dropWhile Text.isBlank).reverse.takeWhile Text.isBlank).reverse, ?_, ?_, ?_⟩
  · unfold Text.trim Text.dropEnd Text.dropStart
    rw [String.toList_ofList, List.append_assoc, ← List.reverse_append,
      List.takeWhile_append_dropWhile, List.reverse_reverse, List.takeWhile_append_dropWhile]
  · exact fun c hc => List.mem_takeWhile_imp hc
  · exact fun c hc => List.mem_takeWhile_imp (List.mem_reverse.mp hc)

/-- Trimming a path does not change its pieces. -/
theorem pieces_trim (path : String) : pieces (Text.trim path) = pieces path := by
  obtain ⟨lead, trail, hpath, hlead, htrail⟩ := toList_eq_trim path
  obtain ⟨first, rest, hcore⟩ := exists_splitOn_eq_cons '.' (Text.trim path).toList
  have hfirst := splitOn_append_left (dot_not_blank hlead) hcore
  obtain ⟨init, last, hinit, hlast⟩ :=
    splitOn_append_right (dot_not_blank htrail) (lead ++ (Text.trim path).toList)
  have hsame : (lead ++ first) :: rest = init ++ [last] := by rw [← hfirst, hinit]
  let trimmed (cs : List Char) : String := Text.trim (String.ofList cs)
  unfold pieces
  rw [hpath, hlast, hcore]
  calc (first :: rest).map trimmed
      = ((lead ++ first) :: rest).map trimmed := by
        rw [List.map_cons, List.map_cons]
        exact congrArg (· :: _) (trim_append_left hlead first).symm
    _ = init.map trimmed ++ [trimmed last] := by rw [hsame, List.map_append, List.map_singleton]
    _ = (init ++ [last ++ trail]).map trimmed := by
        rw [List.map_append, List.map_singleton]
        exact congrArg (_ ++ [·]) (trim_append_right htrail last).symm

/-- A path that is not malformed does not end with a dot when it is trimmed. -/
theorem trimEndOf_dot {path : String} (h : ¬ Malformed path) :
    Text.trimEndOf '.' (Text.trim path) = Text.trim path := by
  unfold Text.trimEndOf Text.dropEnd
  cases hlast : (Text.trim path).toList.reverse with
  | nil =>
    rw [List.reverse_eq_nil_iff, String.toList_eq_nil_iff] at hlast
    rw [hlast]
    rfl
  | cons c cs =>
    have hpath : (Text.trim path).toList = cs.reverse ++ [c] := by
      rw [← List.reverse_cons, ← hlast, List.reverse_reverse]
    have hc : c ≠ '.' := by
      rintro rfl
      refine h (Or.inr ((empty_mem_pieces_iff path).mp ?_))
      rw [← pieces_trim, pieces, hpath, splitOn_append_sep, List.map_append]
      exact List.mem_append_right _ (List.mem_singleton.mpr rfl)
    rw [List.dropWhile_cons_of_neg (by simpa using hc), List.reverse_cons, ← hpath,
      String.ofList_toList]

end Json

/-! ## 2. Paths under a scope -/

/-- **Under a scope, the segments of the scope come first**, whatever path the model asks for. -/
theorem GlobalStateBody.pieces_scopedPath {b : GlobalStateBody} (h : ¬ Malformed b.scope)
    (path : String) : pieces (b.scopedPath path) = pieces b.scope ++ pieces path := by
  have hsome : (Text.trim b.scope).isEmpty = false := by
    rw [← Bool.not_eq_true, String.isEmpty_iff, ← String.ofList_toList (s := b.scope),
      trim_eq_empty_iff]
    exact fun hblank => h (Or.inl hblank)
  have hscoped : b.scopedPath path = Text.trim b.scope ++ "." ++ path := by
    unfold scopedPath
    rw [trimEndOf_dot h]
    dsimp only
    rw [hsome]
    rfl
  have hdot : ".".toList = ['.'] := rfl
  rw [hscoped, ← pieces_trim b.scope]
  unfold pieces
  rw [String.toList_append, String.toList_append, hdot, List.append_assoc, List.singleton_append,
    splitOn_append_sep, List.map_append]

/-! ## 3. Writes under some segments -/

/-- **What writes under some segments do** to a state: what parts from these segments reads what it
read before, as far as only objects were on the way. -/
structure Confined (scope : List String) (s s' : RunState) : Prop where
  forward : s.generation ≤ s'.generation
  /-- Without a write the variables are the same. -/
  quiet : s'.generation = s.generation → s'.vars = s.vars
  /-- After a write there are only objects on the way to the scope. -/
  objects : s.generation < s'.generation → ∀ common s rest, scope = common ++ s :: rest →
    ObjectsAlong s'.vars common
  kept : s.generation < s'.generation → ∀ common q, PartAfter common scope q →
    ObjectsAlong s.vars common → getSegments? s'.vars q = getSegments? s.vars q
  lost : s.generation < s'.generation → ∀ common q, PartAfter common scope q →
    ¬ ObjectsAlong s.vars common → getSegments? s'.vars q = none

namespace Confined

variable {scope : List String} {s t u : RunState}

theorem refl (scope : List String) (s : RunState) : Confined scope s s where
  forward := Nat.le_refl _
  quiet _ := rfl
  objects h := absurd h (Nat.lt_irrefl _)
  kept h := absurd h (Nat.lt_irrefl _)
  lost h := absurd h (Nat.lt_irrefl _)

/-- One write. -/
theorem write {path : String} {v : Json} (h : s.setVar path v = .ok t)
    (hscope : scope <+: pieces path) : Confined scope s t := by
  obtain ⟨rest, hrest⟩ := hscope
  unfold RunState.setVar setPath at h
  cases hsegments : segments path with
  | error f =>
    rw [hsegments] at h
    cases h
  | ok ss =>
    rw [hsegments] at h
    cases h
    obtain ⟨-, rfl⟩ := segments_eq_ok_iff.mp hsegments
    -- what parts from the scope parts from the written path
    have hpart {common q : List String} (h : PartAfter common scope q) :
        PartAfter common (pieces path) q := by
      obtain ⟨a, b, p', q', rfl, rfl, hab⟩ := h
      refine ⟨a, b, p' ++ rest, q', ?_, rfl, hab⟩
      rw [← hrest, List.append_assoc, List.cons_append]
    refine ⟨Nat.le_succ _, fun hsame => absurd hsame (Nat.succ_ne_self _), ?_, ?_, ?_⟩
    · rintro - common a below rfl way ⟨between, rfl⟩
      obtain ⟨t, after, hafter⟩ : ∃ t after, between ++ a :: below ++ rest = t :: after := by
        cases between with
        | nil => exact ⟨a, below ++ rest, rfl⟩
        | cons t between => exact ⟨t, _, rfl⟩
      have hway : pieces path = way ++ t :: after := by
        rw [← hrest, ← hafter, List.append_assoc, List.append_assoc, List.append_assoc]
      dsimp only
      rw [hway]
      exact getSegments?_above v s.vars way t after
    · exact fun _ common q hq hobjects => getSegments?_beside v (hpart hq) hobjects
    · exact fun _ common q hq hobjects => getSegments?_lost v (hpart hq) hobjects

/-- Writes add up. -/
theorem trans (h : Confined scope s t) (h' : Confined scope t u) : Confined scope s u := by
  rcases Nat.lt_or_eq_of_le h'.forward with hlater | hlater
  · rcases Nat.lt_or_eq_of_le h.forward with hearlier | hearlier
    · -- the first write has put objects on the way, so the later ones lose nothing
      have hobjects {common q : List String} (hq : PartAfter common scope q) :
          ObjectsAlong t.vars common := by
        obtain ⟨a, b, p', q', hp, -, -⟩ := hq
        exact h.objects hearlier common a p' hp
      refine ⟨Nat.le_trans h.forward h'.forward, fun hsame => ?_,
        fun _ => h'.objects hlater, ?_, ?_⟩
      · exact absurd hsame (Nat.ne_of_gt (Nat.lt_trans hearlier hlater))
      · intro _ common q hq hfirst
        rw [h'.kept hlater common q hq (hobjects hq), h.kept hearlier common q hq hfirst]
      · intro _ common q hq hfirst
        rw [h'.kept hlater common q hq (hobjects hq), h.lost hearlier common q hq hfirst]
    · have hvars := h.quiet hearlier.symm
      refine ⟨Nat.le_trans h.forward h'.forward, fun hsame => ?_,
        fun _ => h'.objects hlater, ?_, ?_⟩
      · exact absurd (hsame.trans hearlier) (Nat.ne_of_gt hlater)
      · rw [← hvars]
        exact fun _ => h'.kept hlater
      · rw [← hvars]
        exact fun _ => h'.lost hlater
  · have hvars := h'.quiet hlater.symm
    refine ⟨Nat.le_trans h.forward h'.forward, fun hsame => ?_, ?_, ?_, ?_⟩
    · rw [hvars, h.quiet (hlater.trans hsame)]
    · rw [hvars, ← hlater]
      exact h.objects
    · rw [hvars, ← hlater]
      exact h.kept
    · rw [hvars, ← hlater]
      exact h.lost

end Confined

/-! ## 4. Calls -/

/-- The calls of a tool with some arguments, one after the other. -/
def Exec.callEach (c : Frame σ) (b : ToolBinding) (args : List Json) : Exec σ (List Json) :=
  args.mapM (callTool c b)

/-- An array stands where some segments lead, which two paths share. -/
def ArrayShared (v : Json) (p q : List String) : Prop :=
  ∃ way items, way <+: p ∧ way <+: q ∧ getSegments? v way = some (.array items)

/-- **What the calls of a provider leave alone**, as seen from the states before and after them. -/
structure KeepsScope (b : GlobalStateBody) (s s' : RunState) : Prop where
  forward : s.generation ≤ s'.generation
  /-- A path outside the scope reads the same, unless something was written and the path led through
  an array on the way to the scope. -/
  same (path : String) : ¬ pieces path <+: pieces b.scope → ¬ pieces b.scope <+: pieces path →
    (s'.generation = s.generation ∨ ¬ ArrayShared s.vars (pieces b.scope) (pieces path)) →
    s'.getVar? path = s.getVar? path
  /-- Then an object has taken the place of the array, and the path reads nothing. -/
  lost (path : String) : ¬ pieces path <+: pieces b.scope → ¬ pieces b.scope <+: pieces path →
    s.generation < s'.generation → ArrayShared s.vars (pieces b.scope) (pieces path) →
    s'.getVar? path = none
  /-- A provider that may not write leaves all variables alone. -/
  readOnly : b.allowWrite = false → s'.vars = s.vars ∧ s'.generation = s.generation

theorem getVar?_eq {path : String} (h : ¬ Malformed path) (s : RunState) :
    s.getVar? path = getSegments? s.vars (pieces path) := by
  unfold RunState.getVar? getPath?
  rw [segments_eq_ok_iff.mpr ⟨h, rfl⟩]

theorem getVar?_of_malformed {path : String} (h : Malformed path) (s : RunState) :
    s.getVar? path = none :=
  getPath?_of_malformed h s.vars

/-- Where neither an object nor an array is, nothing is read. -/
theorem getSegments?_of_noArray {common p q : List String} (hpart : PartAfter common p q)
    {v : Json} (h : ¬ ObjectsAlong v common)
    (harray : ∀ way items, way <+: common → getSegments? v way ≠ some (.array items)) :
    getSegments? v q = none := by
  obtain ⟨a, b, p', q', -, rfl, -⟩ := hpart
  induction common generalizing v with
  | nil =>
    cases v with
    | object members => exact absurd (objectsAlong_nil members) h
    | array items => exact absurd rfl (harray [] items List.nil_prefix)
    | _ => rfl
  | cons s common ih =>
    cases v with
    | object members =>
      rw [List.cons_append, getSegments?_object_cons]
      cases hu : Keyed.get? members s with
      | none => rfl
      | some u =>
        refine ih (fun hbelow => h (objectsAlong_cons.mpr ⟨u, hu, hbelow⟩)) fun way items hway => ?_
        have hread := harray (s :: way) items ((List.prefix_cons_inj s).mpr hway)
        rw [getSegments?_object_cons, hu] at hread
        exact hread
    | array items => exact absurd rfl (harray [] items List.nil_prefix)
    | _ => rfl

theorem Confined.keepsScope {b : GlobalStateBody} {s s' : RunState}
    (h : Confined (pieces b.scope) s s')
    (hreadOnly : b.allowWrite = false → s'.vars = s.vars ∧ s'.generation = s.generation) :
    KeepsScope b s s' where
  forward := h.forward
  same path hnot hnot' harray := by
    by_cases hformed : Malformed path
    · rw [getVar?_of_malformed hformed, getVar?_of_malformed hformed]
    rw [getVar?_eq hformed, getVar?_eq hformed]
    rcases Nat.lt_or_eq_of_le h.forward with hwritten | hquiet
    · have hnone := harray.resolve_left (Nat.ne_of_gt hwritten)
      obtain ⟨common, hpart⟩ := exists_partAfter hnot' hnot
      by_cases hobjects : ObjectsAlong s.vars common
      · exact h.kept hwritten common _ hpart hobjects
      · rw [h.lost hwritten common _ hpart hobjects]
        refine (getSegments?_of_noArray hpart hobjects fun way items hway hread => ?_).symm
        obtain ⟨a, b', p', q', hp, hq, -⟩ := hpart
        exact hnone ⟨way, items, hway.trans ⟨_, hp.symm⟩, hway.trans ⟨_, hq.symm⟩, hread⟩
    · rw [h.quiet hquiet.symm]
  lost path hnot hnot' hwritten harray := by
    by_cases hformed : Malformed path
    · exact getVar?_of_malformed hformed s'
    obtain ⟨way, items, hp, hq, hread⟩ := harray
    obtain ⟨common, hpart⟩ := exists_partAfter hnot' hnot
    rw [getVar?_eq hformed]
    refine h.lost hwritten common _ hpart fun hobjects => ?_
    obtain ⟨members, hmembers⟩ := hobjects way (hpart.shared hp hq)
    rw [hread] at hmembers
    cases hmembers
  readOnly := hreadOnly

namespace Exec

variable {c : Frame σ} {b : ToolBinding} {n : Node} {body : GlobalStateBody}
  (hfind : c.graph.findNode? b.providerId = some n) (hbody : n.data.body = .globalState body)

include hfind hbody

/-- One call of a provider with a scope. -/
theorem callTool_confined (hscope : ¬ Malformed body.scope) (args : Json) (s : Session σ) :
    ∃ result s', settle (callTool c b args) s = (.ok result, s') ∧
      Confined (pieces body.scope) s.state s'.state ∧
      (body.allowWrite = false → s'.state = s.state) := by
  have hlook : settle (state : Exec σ RunState) s = (.ok s.state, s) := rfl
  unfold callTool
  rw [hfind]
  dsimp only
  rw [hbody]
  dsimp only
  unfold useState
  rw [settle_bind_of_ok hlook]
  cases hcall : body.call args s.state with
  | mk result after =>
    cases after with
    | none => exact ⟨result, s, rfl, .refl _ _, fun _ => rfl⟩
    | some state =>
      obtain ⟨hallowed, path, v, hset⟩ := body.call_setVar hcall
      refine ⟨result, _, rfl, .write hset ?_, fun hdenied => ?_⟩
      · rw [GlobalStateBody.pieces_scopedPath hscope]
        exact List.prefix_append _ _
      · rw [hallowed] at hdenied
        cases hdenied

/-- Any sequence of calls. -/
theorem callEach_confined (hscope : ¬ Malformed body.scope) (args : List Json) (s : Session σ) :
    ∃ results s', settle (callEach c b args) s = (.ok results, s') ∧
      Confined (pieces body.scope) s.state s'.state ∧
      (body.allowWrite = false → s'.state = s.state) := by
  unfold callEach
  induction args generalizing s with
  | nil => exact ⟨[], s, rfl, .refl _ _, fun _ => rfl⟩
  | cons arg args ih =>
    obtain ⟨result, t, hfirst, hconfined, hreadOnly⟩ :=
      callTool_confined hfind hbody hscope arg s
    obtain ⟨results, u, hrest, hconfined', hreadOnly'⟩ := ih t
    rw [List.mapM_cons, settle_bind_of_ok hfirst, settle_bind_of_ok hrest]
    refine ⟨result :: results, u, rfl, hconfined.trans hconfined', fun hdenied => ?_⟩
    rw [hreadOnly' hdenied, hreadOnly hdenied]

/-- **A provider keeps to its scope** in any sequence of calls, whatever the arguments and the
variables are, and all calls end with a result. -/
theorem callEach_keepsScope (hscope : ¬ Malformed body.scope) (args : List Json) (s : Session σ) :
    ∃ results s', settle (callEach c b args) s = (.ok results, s') ∧
      KeepsScope body s.state s'.state := by
  obtain ⟨results, s', hsettle, hconfined, hreadOnly⟩ :=
    callEach_confined hfind hbody hscope args s
  refine ⟨results, s', hsettle, hconfined.keepsScope fun hdenied => ?_⟩
  rw [hreadOnly hdenied]
  exact ⟨rfl, rfl⟩

end Exec

/-- A provider whose scope lies beside the books on a shelf. -/
def shelf : Graph :=
  { nodes := [⟨"notes", .globalState,
      ⟨"Notes", "", false, .globalState { scope := "shelf.notes" }⟩⟩] }

/-- The tool of that provider. -/
def shelfTool : ToolBinding :=
  { providerId := "notes", providerType := .globalState
    definition := GlobalStateBody.tool { scope := "shelf.notes" } }

/-- The model reads and writes its notes. -/
def noteTaking : List Json :=
  [.ofMembers [("action", .string "get"), ("path", .string "monday")],
    .ofMembers [("action", .string "set"), ("path", .string "monday"), ("value", .string "rain")]]

/-- A shelf that is a list of books. -/
def books : RunState := { vars := .object [("shelf", .array [.string "atlas"])] }

/-- A shelf with its books by name. -/
def namedBooks : RunState :=
  { vars := .object [("shelf", .object [("atlas", .string "a")])] }

/-- A path outside the scope need not read what it read before: the list of books has made room for
the notes. -/
theorem isolation_fails : ¬ ∀ (c : Frame Rehearsal) (b : ToolBinding) (n : Node)
    (body : GlobalStateBody), c.graph.findNode? b.providerId = some n →
    n.data.body = .globalState body → ¬ Malformed body.scope → ∀ (args : List Json)
    (s : Session Rehearsal) (path : String), ¬ Malformed path →
    ¬ pieces path <+: pieces body.scope → ¬ pieces body.scope <+: pieces path →
    (settle (callEach c b args) s).2.state.getVar? path = s.state.getVar? path := by
  intro h
  have hsame := h shelf.trial shelfTool _ _ rfl rfl (by decide +kernel) noteTaking
    { state := books, world := {} } "shelf.0" (by decide +kernel) (by decide +kernel)
    (by decide +kernel)
  exact absurd hsame (by decide +kernel)

theorem shelf_keepsScope : shelf.trial.graph.findNode? shelfTool.providerId =
      some ⟨"notes", .globalState, ⟨"Notes", "", false, .globalState { scope := "shelf.notes" }⟩⟩ ∧
    ¬ Malformed "shelf.notes" ∧
    ∃ results s', settle (callEach shelf.trial shelfTool noteTaking)
        { state := namedBooks, world := {} } = (.ok results, s') ∧
      KeepsScope { scope := "shelf.notes" } namedBooks s'.state :=
  ⟨rfl, by decide +kernel, callEach_keepsScope (c := shelf.trial) (b := shelfTool) rfl rfl
    (by decide +kernel) noteTaking { state := namedBooks, world := {} }⟩

end Workgraph
